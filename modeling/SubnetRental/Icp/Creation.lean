import SubnetRental.Icp.Conversions
import SubnetRental.Foundation.CompletedCalls

/-!
# The failed creation of an agreement

A creation that fails writes no request and no agreement, because it writes them in its last segment
only. But the ICP that it converted are gone when a later call fails. `Unsuccessful` is what a
failed creation leaves, at whichever await it ends (`unsuccessful_of_completeFrom`), and
`creation_retryable_iff` that the creation can be executed again exactly when the ledger did not
accept the transfer or the subaccount held the remaining ICP twice.
-/

set_option autoImplicit false
set_option relaxedAutoImplicit false

namespace SubnetRental.Icp

open Canister Lifecycle Foundation.GuardedCalls Foundation.MachineInteger
open Foundation.TransitionSystem Std

/-- The ICP of a request that are not converted yet. -/
def remainingIcp (r : RentalRequest) : Tokens := r.initialCostIcp - r.lockedAmountIcp

/-- What a creation that failed leaves behind: the records, and the balance of the user without a
debit. -/
structure Unsuccessful (user : Principal) (debit : ℕ) (w w' : World) : Prop where
  rentalRequests : w'.canister.rentalRequests = w.canister.rentalRequests
  rentalAgreements : w'.canister.rentalAgreements = w.canister.rentalAgreements
  balance : w'.balance user = w.balance user - debit

theorem Unsuccessful.trans {user : Principal} {debit debit' : ℕ} {w v u : World}
    (h : Unsuccessful user debit w v) (h' : Unsuccessful user debit' v u) :
    Unsuccessful user (debit + debit') w u :=
  ⟨h'.rentalRequests.trans h.rentalRequests, h'.rentalAgreements.trans h.rentalAgreements, by
    rw [h'.balance, h.balance, Nat.sub_sub]⟩

/-- An answer leaves the records and debits what it takes. -/
theorem unsuccessful_serve (user : Principal) (frame : Frame) (answer : Answer) (w : World) :
    Unsuccessful user (debitOf user frame.outgoing answer) w (service.serve frame answer w) := by
  have hcanister := world_answer_canister w frame.outgoing answer
  refine ⟨?_, ?_, (answer_debited w user frame.outgoing answer).2⟩
  · change (w.answer frame.outgoing answer).canister.rentalRequests = _
    rw [hcanister]
  · change (w.answer frame.outgoing answer).canister.rentalAgreements = _
    rw [hcanister]

/-- A quiet segment leaves the records and the balance. -/
theorem unsuccessful_of_quiet (user : Principal) {w : World} {s : State} (h : Quiet w.canister s) :
    Unsuccessful user 0 w { w with canister := s } :=
  ⟨h.rentalRequests, h.rentalAgreements, (Nat.sub_zero _).symm⟩

/-- What a suspended position knows is still true when its request is answered. -/
theorem knows_served {frame : Frame} {w : World}
    (h : Knows frame w.canister) (answer : Answer) :
    Knows frame (service.serve frame answer w).canister := by
  change Knows frame (w.answer frame.outgoing answer).canister
  rw [world_answer_canister]
  exact h.of_agree (fun lock _ ↦ agree_of_maps rfl rfl lock) rfl le_rfl

/-! ### The segments of a creation -/

/-- The last segment of a creation replies with success only. -/
theorem resumeCreateAuthorize_reply {payload : CreateRentalAgreementPayload}
    {rentalAgreement : RentalAgreement} {answer : Answer} {s s' : State} {response : Response}
    (h : resumeCreateAuthorize payload rentalAgreement answer s = .reply s' response) :
    response = .executed (.ok ()) := by
  unfold resumeCreateAuthorize at h
  split at h
  · cases h
  · split at h
    · cases h
    · split at h
      · cases h
      · exact (Outcome.reply.inj h).2.symm

/-- A segment of a creation is quiet unless it ends the call successfully. -/
theorem quiet_of_creation {caller : Principal} {payload : CreateRentalAgreementPayload}
    {frame : Frame} (hawaits : Awaits (.executeCreateRentalAgreement caller payload) frame)
    (answer : Answer) (s : State) :
    (∃ s', resume frame answer s = .reply s' (.executed (.ok ()))) ∨
      (resume frame answer s).Leaving (Quiet s) := by
  cases frame <;> try exact hawaits.elim
  case createConvert payload' r period remainingIcp stage =>
    exact .inr
      (framed_resumeCreateConvert framing_quiet payload' r period remainingIcp stage answer s)
  case createAuthorize payload' r a =>
    change (∃ s', resumeCreateAuthorize payload' a answer s = .reply s' (.executed (.ok ()))) ∨
      (resumeCreateAuthorize payload' a answer s).Leaving (Quiet s)
    have hsuspending := resumeCreateAuthorize_suspending payload' a answer s
    cases hresume : resumeCreateAuthorize payload' a answer s with
    | trap reason => exact .inr trivial
    | suspend t frame' =>
      rw [hresume] at hsuspending
      exact hsuspending.elim
    | reply t response =>
      obtain rfl := resumeCreateAuthorize_reply hresume
      exact .inl ⟨t, rfl⟩

/-- After its first await a creation makes no further transfer. -/
theorem undebited_of_creation {caller : Principal} {payload : CreateRentalAgreementPayload}
    {frame : Frame} (hawaits : Awaits (.executeCreateRentalAgreement caller payload) frame)
    (answer : Answer) (s : State) :
    (resume frame answer s).Suspending fun _ frame' ↦
      ∀ user later, debitOf user frame'.outgoing later = 0 := by
  cases frame <;> try exact hawaits.elim
  case createConvert payload' r period remainingIcp stage =>
    change (resumeCreateConvert payload' r period remainingIcp stage answer s).Suspending _
    unfold resumeCreateConvert
    split
    · trivial
    · rename_i stage' hstage
      obtain ⟨-, blockIndex, rfl⟩ := convertIcpToCycles_eq_await hstage
      exact fun _ _ ↦ rfl
    · rename_i result _
      cases result with
      | error e => trivial
      | ok converted => exact fun _ _ ↦ rfl
  case createAuthorize payload' r a =>
    exact (resumeCreateAuthorize_suspending payload' a answer s).mono fun _ _ ↦ False.elim

/-- What the first answer takes from the user. -/
def firstDebit (user : Principal) (frame : Frame) : List Answer → ℕ
  | [] => 0
  | answer :: _ => debitOf user frame.outgoing answer

/-- A creation that fails leaves the records and has debited at most what its next answer takes. -/
theorem unsuccessful_of_completeFrom {caller : Principal} {payload : CreateRentalAgreementPayload}
    {frame : Frame} {answers : List Answer} {w w' : World} {result : Except Trap Response}
    (hawaits : Awaits (.executeCreateRentalAgreement caller payload) frame)
    (hknows : Knows frame w.canister)
    (h : service.completeFrom frame answers w = some (w', result))
    (hfailed : result ≠ .ok (.executed (.ok ()))) :
    Unsuccessful payload.user (firstDebit payload.user frame answers) w w' := by
  induction answers generalizing frame w with
  | nil => cases h
  | cons answer rest ih =>
    have hserve := unsuccessful_serve payload.user frame answer w
    have hknows' : Knows frame (service.serve frame answer w).canister := knows_served hknows answer
    have hquiet := quiet_of_creation hawaits answer (service.serve frame answer w).canister
    cases Service.completeFromEnd_of_eq h with
    | trap _ reason hresume hend =>
      subst hend
      exact hserve.trans (unsuccessful_of_quiet payload.user (Quiet.dropGuards _ _))
    | reply _ response hresume =>
      obtain ⟨s', hsegment, rfl⟩ := Outcome.mapState_eq_reply hresume
      rw [hsegment] at hquiet
      obtain ⟨t, ht⟩ | hquiet := hquiet
      · obtain ⟨-, rfl⟩ := Outcome.reply.inj ht
        exact absurd rfl hfailed
      · exact hserve.trans (unsuccessful_of_quiet payload.user hquiet)
    | suspend _ _ t frame' _ hresume hrest =>
      obtain ⟨s', hsegment, rfl⟩ := Outcome.mapState_eq_suspend hresume
      have hinformed := resume_informed answer hawaits hknows'
      have hundebited := undebited_of_creation hawaits answer
        (service.serve frame answer w).canister
      rw [hsegment] at hquiet hinformed hundebited
      obtain ⟨t, ht⟩ | hquiet := hquiet
      · cases ht
      · have hlater := ih hinformed.1 hinformed.2 hrest
        have hzero : firstDebit payload.user frame' rest = 0 := by
          cases rest with
          | nil => rfl
          | cons later _ => exact hundebited payload.user later
        rw [hzero] at hlater
        exact (hserve.trans (unsuccessful_of_quiet payload.user hquiet)).trans hlater

/-- What the first segment of a creation awaits. -/
theorem executeCreateRentalAgreement_suspending (caller : Principal)
    (payload : CreateRentalAgreementPayload) (s : State) :
    (executeCreateRentalAgreement caller payload s).Suspending fun s' frame ↦
      Knows frame s' ∧ ∃ r period, s.rentalRequests[payload.user]? = some r ∧
        frame = .createConvert payload r period (remainingIcp r) .transfer := by
  have hquiet := framed_executeCreateRentalAgreement framing_quiet caller payload s
  have hinformed := informed_executeCreateRentalAgreement caller payload s
  have hframe := executeCreateRentalAgreement_converts caller payload s
  cases hsegment : executeCreateRentalAgreement caller payload s with
  | trap | reply => trivial
  | suspend s' frame =>
    rw [hsegment] at hquiet hinformed hframe
    obtain ⟨r, period, icp, rfl⟩ := hframe
    have hknows := hinformed.2
    obtain ⟨hstored, -, -, rfl, -⟩ := hinformed.2
    refine ⟨hknows, r, period, ?_, rfl⟩
    rw [← hquiet.rentalRequests, hstored]

/-! ### Retrying a creation -/

/-- A second execution of the same proposal finds what the first one found: no new agreement of the
subnet, the same request of the user, and the ICP it has to convert if they were there before. -/
structure Retryable (payload : CreateRentalAgreementPayload) (w w' : World) : Prop where
  agreement : w'.canister.rentalAgreements[payload.subnetId]? =
    w.canister.rentalAgreements[payload.subnetId]?
  request : w'.canister.rentalRequests[payload.user]? =
    w.canister.rentalRequests[payload.user]?
  funded : ∀ r, w.canister.rentalRequests[payload.user]? = some r →
    (remainingIcp r).e8s ≤ w.balance payload.user →
      (remainingIcp r).e8s ≤ w'.balance payload.user

/-- The ledger's answer to a creation is an acceptance. -/
def Accepted (answers : List Answer) : Prop :=
  ∃ blockIndex, answers.head? = some (.transfer (.ok blockIndex))

theorem retryable_of_unsuccessful {payload : CreateRentalAgreementPayload} {debit : ℕ}
    {w w' : World} (h : Unsuccessful payload.user debit w w') :
    Retryable payload w w' ↔ ∀ r, w.canister.rentalRequests[payload.user]? = some r →
      (remainingIcp r).e8s ≤ w.balance payload.user →
        (remainingIcp r).e8s ≤ w.balance payload.user - debit := by
  rw [← h.balance]
  exact ⟨fun hretry ↦ hretry.funded, fun hfunded ↦
    ⟨by rw [h.rentalAgreements], by rw [h.rentalRequests], hfunded⟩⟩

/-- What the transfer of a creation takes when it is answered. -/
theorem firstDebit_transfer (payload : CreateRentalAgreementPayload) (r : RentalRequest)
    (period : ℕ) (answers : List Answer) :
    (Accepted answers →
      firstDebit payload.user (.createConvert payload r period (remainingIcp r) .transfer)
        answers = max (remainingIcp r).e8s defaultFee.e8s) ∧
    (¬ Accepted answers →
      firstDebit payload.user (.createConvert payload r period (remainingIcp r) .transfer)
        answers = 0) := by
  constructor
  · rintro ⟨blockIndex, hhead⟩
    obtain ⟨rest, rfl⟩ := List.head?_eq_some_iff.mp hhead
    change (if payload.user = payload.user then
      (remainingIcp r - defaultFee).e8s + defaultFee.e8s else 0) = _
    rw [if_pos rfl, Tokens.sub_e8s]
    omega
  · intro hrefused
    cases answers with
    | nil => rfl
    | cons answer rest =>
      cases answer with
      | transfer result =>
        cases result with
        | ok blockIndex => exact absurd ⟨blockIndex, rfl⟩ hrefused
        | error e => rfl
      | _ => rfl

/-- A creation that fails, at whichever of its awaits, can be retried exactly when the ledger did
not accept its transfer or the subaccount held what the transfer takes and the remaining ICP
again. -/
theorem creation_retryable_iff {payload : CreateRentalAgreementPayload} {answers : List Answer}
    {w w' : World} {result : Except Trap Response}
    (hend : service.completeAlone
      (.executeCreateRentalAgreement governanceCanisterId payload) answers w =
        some (w', result))
    (hfailed : result ≠ .ok (.executed (.ok ())))
    (hcovered : ∀ r, w.canister.rentalRequests[payload.user]? = some r → Accepted answers →
      Covers w payload.user (remainingIcp r - defaultFee)) :
    Retryable payload w w' ↔
      ∀ r, w.canister.rentalRequests[payload.user]? = some r → Accepted answers →
        (remainingIcp r).e8s + max (remainingIcp r).e8s defaultFee.e8s ≤
          w.balance payload.user := by
  have hnone : ¬ Accepted [] := by
    rintro ⟨blockIndex, hhead⟩
    cases hhead
  cases Service.completeAloneEnd_of_eq hend with
  | trap reason hstart hsame =>
    subst hsame
    exact iff_of_true ⟨rfl, rfl, fun _ _ hfunded ↦ hfunded⟩ fun _ _ h ↦ absurd h hnone
  | reply response hstart =>
    obtain ⟨s', hsegment, rfl⟩ := Outcome.mapState_eq_reply hstart
    have hquiet := framed_executeCreateRentalAgreement framing_quiet governanceCanisterId payload
      w.canister
    change executeCreateRentalAgreement governanceCanisterId payload w.canister = _
      at hsegment
    rw [hsegment] at hquiet
    rw [retryable_of_unsuccessful (unsuccessful_of_quiet payload.user hquiet)]
    exact iff_of_true (fun _ _ hfunded ↦ hfunded) fun _ _ h ↦ absurd h hnone
  | suspend _ t frame _ hstart hrest =>
    obtain ⟨s', hsegment, rfl⟩ := Outcome.mapState_eq_suspend hstart
    have hquiet := framed_executeCreateRentalAgreement framing_quiet governanceCanisterId payload
      w.canister
    have hsuspending := executeCreateRentalAgreement_suspending governanceCanisterId payload
      w.canister
    change executeCreateRentalAgreement governanceCanisterId payload w.canister = _
      at hsegment
    rw [hsegment] at hquiet hsuspending
    obtain ⟨hknows, r, period, hstored, rfl⟩ := hsuspending
    have hawaits : Awaits (.executeCreateRentalAgreement governanceCanisterId payload)
        (.createConvert payload r period (remainingIcp r) .transfer) := ⟨rfl, rfl⟩
    have hunsuccessful := (unsuccessful_of_quiet payload.user hquiet).trans
      (unsuccessful_of_completeFrom hawaits hknows hrest hfailed)
    obtain ⟨haccepted, hrefused⟩ := firstDebit_transfer payload r period answers
    rw [retryable_of_unsuccessful hunsuccessful, Nat.zero_add]
    by_cases h : Accepted answers
    · have hcovers := hcovered r hstored h
      rw [haccepted h]
      rw [Covers, Tokens.sub_e8s] at hcovers
      constructor
      · intro hfunded q hq _
        obtain rfl : r = q := Option.some.inj (hstored.symm.trans hq)
        have hafter := hfunded r hstored (by omega)
        omega
      · intro htwice q hq _
        obtain rfl : r = q := Option.some.inj (hstored.symm.trans hq)
        have htwice := htwice r hstored h
        omega
    · rw [hrefused h]
      exact iff_of_true (fun _ _ hfunded ↦ hfunded) fun _ _ haccept ↦ absurd haccept h

/-! ### Creations that fail -/

/-- Alice paid twice the cost, and the CMC refuses the notification. -/
def refusedNotification : List Answer := [.transfer (.ok 2), .notifyTopUp (.error .processing)]

theorem refusedNotification_isSome :
    (service.completeAlone (.executeCreateRentalAgreement governanceCanisterId aliceCreation)
      refusedNotification dueConfiguration.state).isSome := by
  decide +kernel

/-- What is left suffices for a second execution. -/
theorem creation_retryable_refusedNotification :
    Retryable aliceCreation dueConfiguration.state
      ((service.completeAlone (.executeCreateRentalAgreement governanceCanisterId aliceCreation)
        refusedNotification dueConfiguration.state).get refusedNotification_isSome).1 := by
  have hstored := (Option.some_get dueConfiguration_stored).symm
  have heq {r : RentalRequest}
      (hr : dueConfiguration.state.canister.rentalRequests[aliceProposal.user]? = some r) :
      r = (dueConfiguration.state.canister.rentalRequests[aliceProposal.user]?).get
        dueConfiguration_stored := Option.some.inj (hr.symm.trans hstored)
  refine (creation_retryable_iff (Option.some_get refusedNotification_isSome).symm
    (by decide +kernel) ?_).mpr ?_
  · intro r hr _
    obtain rfl := heq hr
    decide +kernel
  · intro r hr _
    obtain rfl := heq hr
    decide +kernel

/-- The price of 180 days at 3.6 XDR per ICP, in e8s. -/
def exactCost : ℕ := 4_100_000_000_000

/-- Alice paid exactly the cost, and her proposal is executed. -/
def exactProposal : List Label :=
  undisturbed (.executeRentalRequestProposal governanceCanisterId aliceProposal) 0
    [.exchangeRate (.ok (3_600_000_000, 9)), .accountBalance ⟨exactCost⟩, .transfer (.ok 1),
      .notifyTopUp (.ok (10 ^ 16))]

theorem exactProposal_isSome :
    ((system (10 ^ 12)).perform (idle (installedWorld (10 ^ 12) fun _ ↦ exactCost))
      exactProposal).isSome := by
  decide +kernel

def exactConfiguration : Configuration :=
  ((system (10 ^ 12)).perform (idle (installedWorld (10 ^ 12) fun _ ↦ exactCost))
    exactProposal).get exactProposal_isSome

theorem reachable_exactConfiguration : (system (10 ^ 12)).Reachable exactConfiguration :=
  System.reachable_get_perform (init_idle _ _) exactProposal_isSome

theorem exactConfiguration_stored :
    (exactConfiguration.state.canister.rentalRequests[aliceProposal.user]?).isSome := by
  decide +kernel

/-- The CMC cannot be reached after the remaining ICP were converted. -/
def unreachableCmc : List Answer :=
  [.transfer (.ok 2), .notifyTopUp (.ok (9 * 10 ^ 16)), .callFailed "SysTransient"]

theorem unreachableCmc_isSome :
    (service.completeAlone (.executeCreateRentalAgreement governanceCanisterId aliceCreation)
      unreachableCmc exactConfiguration.state).isSome := by
  decide +kernel

theorem unreachableCmc_traps :
    ((service.completeAlone (.executeCreateRentalAgreement governanceCanisterId aliceCreation)
      unreachableCmc exactConfiguration.state).get unreachableCmc_isSome).2 =
        .error .callFailed := by
  decide +kernel

/-- In a reachable state a creation that the ledger accepts traps at its last await, and the
remaining ICP are not there for a second execution. -/
theorem creation_not_retryable :
    ∃ c answers w' reason, (system (10 ^ 12)).Reachable c ∧
      service.completeAlone (.executeCreateRentalAgreement governanceCanisterId aliceCreation)
        answers c.state = some (w', .error reason) ∧
      (∀ r, c.state.canister.rentalRequests[aliceCreation.user]? = some r →
        Covers c.state aliceCreation.user (remainingIcp r - defaultFee)) ∧
      ¬ Retryable aliceCreation c.state w' := by
  have hstored := (Option.some_get exactConfiguration_stored).symm
  refine ⟨exactConfiguration, unreachableCmc,
    ((service.completeAlone (.executeCreateRentalAgreement governanceCanisterId aliceCreation)
      unreachableCmc exactConfiguration.state).get unreachableCmc_isSome).1, .callFailed,
    reachable_exactConfiguration, ?_, ?_, fun hretry ↦ ?_⟩
  · rw [← unreachableCmc_traps]
    exact (Option.some_get unreachableCmc_isSome).symm
  · intro r hr
    obtain rfl : r = (exactConfiguration.state.canister.rentalRequests[aliceProposal.user]?).get
        exactConfiguration_stored := Option.some.inj (hr.symm.trans hstored)
    decide +kernel
  · have hfunded := hretry.funded _ hstored (by decide +kernel)
    exact absurd hfunded (by decide +kernel)

end SubnetRental.Icp
