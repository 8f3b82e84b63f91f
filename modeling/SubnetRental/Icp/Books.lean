import SubnetRental.Cycles.AgreementSteps
import SubnetRental.Icp.Payment
import SubnetRental.Locking.Records

/-!
# The books of a rental

A conversion takes its amount (`taken_eq_iff`), and a top-up records a fee more (`surplus`).
`reconciling` is the canister together with what the conversions of each user's rental have taken,
as the ledger's answers enter it (`entered`). The books are balanced when that, and the surplus of
an agreement, is what is recorded for the rental, as the locked amount of a request or as
`total_icp_paid` of an agreement, and what the call in flight has taken and not recorded yet
(`Reconciled`). The lemmas say what every change of the records and every answer does to balanced
books.
-/

set_option autoImplicit false
set_option relaxedAutoImplicit false

namespace SubnetRental.Icp

open Canister Cycles Lifecycle Locking Foundation.GuardedCalls Foundation.MachineInteger
open Foundation.TreeMapTotals Foundation.TransitionSystem Std

/-! ### What conversions take -/

/-- The amount of the conversion that a suspended position awaits, the user from whose subaccount it
is, and how far it has come. -/
def conversion : Frame → Option (Tokens × Principal × ConvertStage)
  | .rentalRequestConvert payload _ lockAmountIcp stage => some (lockAmountIcp, payload.user, stage)
  | .createConvert payload _ _ remainingIcp stage => some (remainingIcp, payload.user, stage)
  | .topUpConvert _ rentalAgreement _ icpAmountForCycles stage =>
    some (icpAmountForCycles, rentalAgreement.user, stage)
  | .lockingConvert _ rentalRequest tenPercentIcp _ stage =>
    some (tenPercentIcp, rentalRequest.user, stage)
  | _ => none

/-- What the accepted transfer of a conversion takes: the amount less a fee, and the fee. -/
def taken (amount : Tokens) : ℕ := (amount - defaultFee).e8s + defaultFee.e8s

theorem taken_pos (amount : Tokens) : 0 < taken amount := Nat.add_pos_right _ (by decide)

/-- A conversion takes the amount exactly when that covers the fee. -/
theorem taken_eq_iff (amount : Tokens) : taken amount = amount.e8s ↔ defaultFee ≤ amount := by
  unfold taken
  rw [Tokens.sub_e8s, Tokens.le_iff]
  omega

/-- A top-up takes the balance but a fee. -/
theorem taken_topUp_add {balance : Tokens} (hcovers : defaultFee ≤ balance)
    (hfee : defaultFee ≤ balance - defaultFee) :
    taken (balance - defaultFee) + defaultFee.e8s = balance.e8s := by
  rw [(taken_eq_iff _).mpr hfee, Tokens.sub_e8s]
  exact Nat.sub_add_cancel hcovers

/-- What the successful top-ups among ended calls record for each subnet, and do not take. -/
def surplus (ended : List Ended) (subnetId : Principal) : ℕ :=
  defaultFee.e8s * (topUps subnetId ended).length

theorem surplus_append (first second : List Ended) :
    surplus (first ++ second) = surplus first + surplus second := by
  funext subnetId
  unfold surplus
  rw [topUps_append, List.length_append, Nat.mul_add]
  rfl

theorem surplus_of_empty {ended : List Ended} (h : ∀ subnetId, topUps subnetId ended = []) :
    surplus ended = 0 := by
  funext subnetId
  unfold surplus
  rw [h]
  rfl

/-- A successful top-up has a surplus of one fee. -/
theorem surplus_topUp (subnetId : Principal) (summary : TopUpSummary) :
    surplus [(.topUpSubnet subnetId, .ok (.topUp (.ok summary)))] =
      Pi.single subnetId defaultFee.e8s := by
  funext i
  unfold surplus topUps
  by_cases hi : i = subnetId
  · subst hi
    simp [topUpOf]
  · simp [topUpOf, Ne.symm hi, hi]

/-! ### The canister with its conversions -/

/-- The first conversion of a rental. -/
def opens : Frame → Bool
  | .rentalRequestConvert _ _ _ _ => true
  | _ => false

/-- What an answer adds to what the conversions of each user's rental have taken. The sum of a user
starts with the first conversion of a rental. -/
def entered (sums : Principal → ℕ) (frame : Frame) (answer : Answer) : Principal → ℕ :=
  match frame.outgoing, answer with
  | .transferToCmc amount source, .transfer (.ok _) =>
    Function.update sums source
      ((if opens frame then 0 else sums source) + (amount.e8s + defaultFee.e8s))
  | _, _ => sums

/-- The sums after a step. -/
def enteredBy (c : Configuration) (sums : Principal → ℕ) : Label → Principal → ℕ
  | .serve id answer =>
    match c.calls[id]? with
    | some call => entered sums call.frame answer
    | none => sums
  | _ => sums

/-- The canister, and what the conversions of each user's rental have taken. -/
def reconciling (cycles : ℕ) : System (Configuration × (Principal → ℕ)) Label where
  init s := (system cycles).init s.1 ∧ s.2 = fun _ ↦ 0
  next s a := ((system cycles).next s.1 a).map fun c ↦ (c, enteredBy s.1 s.2 a)

/-- A call of the CMC is answered with success. -/
def acceptedSteps (c : Configuration) : Label → Bool
  | .serve id answer =>
    match c.calls[id]? with
    | some call => successful call.frame.outgoing answer
    | none => true
  | _ => true

/-- What a top-up is about to record fits into the total of the agreement. -/
def recordFits : Frame → Bool
  | .topUpConvert _ rentalAgreement userIcpBalance _ _ =>
    rentalAgreement.totalIcpPaid.e8s + userIcpBalance.e8s < 2 ^ 64
  | _ => true

/-- The call that a step resumes records what fits. -/
def fittingSteps (c : Configuration) : Label → Bool
  | .resume id =>
    match c.calls[id]? with
    | some call => recordFits call.frame
    | none => true
  | _ => true

/-- The steps of a run in which operations run one after another, the CMC accepts every call, and no
total overflows. -/
def reconciledSteps (c : Configuration) (a : Label) : Bool :=
  oneAtATime c a && acceptedSteps c a && fittingSteps c a

/-- A top-up is answered with a balance of less than two fees. -/
def meagerSteps (c : Configuration) : Label → Bool
  | .serve id (.accountBalance balance) =>
    match c.calls[id]? with
    | some ⟨_, .topUpBalance _ _, _⟩ => balance.e8s < 2 * defaultFee.e8s
    | _ => true
  | _ => true

/-- The steps of a run in which operations run one after another, the CMC accepts every call, and no
top-up finds two fees. -/
def frugalSteps (c : Configuration) (a : Label) : Bool :=
  oneAtATime c a && acceptedSteps c a && meagerSteps c a

/-- The user whose rental a suspended call works on. -/
def rentalOf : Frame → Option Principal
  | .rentalRequestRate payload _ _ | .rentalRequestBalance payload _ => some payload.user
  | .rentalRequestConvert payload _ _ _ => some payload.user
  | .createConvert payload _ _ _ _ | .createAuthorize payload _ _ => some payload.user
  | .refundBalance caller | .refundTransfer caller _ => some caller
  | .topUpBalance _ rentalAgreement => some rentalAgreement.user
  | .topUpConvert _ rentalAgreement _ _ _ => some rentalAgreement.user
  | .lockingConvert _ rentalRequest _ _ _ => some rentalRequest.user
  | .todaysPrice _ _ | .estimateRate _ _ _ | .subnetAdmins _ => none

/-! ### Balanced books -/

/-- What a conversion has taken, and from whom: the amount, once the ledger has accepted it. -/
def takenAt (amount : Tokens) (source : Principal) : ConvertStage → Option Answer → Principal → ℕ
  | .notify _, _ => Pi.single source (taken amount)
  | .transfer, some (.transfer (.ok _)) => Pi.single source (taken amount)
  | .transfer, _ => 0

/-- What a suspended call has taken and not recorded yet, and from whom. A creation has taken the
rest when the CMC has created the cycles for it. -/
def unrecorded (frame : Frame) (answer : Option Answer) : Principal → ℕ :=
  match frame with
  | .createAuthorize payload rentalRequest _ =>
    Pi.single payload.user (remainingIcp rentalRequest).e8s
  | _ =>
    match conversion frame with
    | some (amount, source, stage) => takenAt amount source stage answer
    | none => 0

/-- What the conversions of a rental have taken, and its fees on top, are what is recorded for it
and what is pending. -/
structure Reconciled (s : State) (sums fees pending : Principal → ℕ) : Prop where
  request : ∀ (u : Principal) r, s.rentalRequests[u]? = some r →
    sums u = r.lockedAmountIcp.e8s + pending u
  agreement : ∀ (i : Principal) a, s.rentalAgreements[i]? = some a →
    sums a.user + fees i = a.totalIcpPaid.e8s + pending a.user
  opening : ∀ u, NoRental u s → pending u ≠ 0 → sums u = pending u
  unrented : ∀ i : Principal, s.rentalAgreements[i]? = none → fees i = 0

variable {s s' : State} {sums fees pending : Principal → ℕ}

theorem Reconciled.of_maps (h : Reconciled s sums fees pending)
    (hrequests : s'.rentalRequests = s.rentalRequests)
    (hagreements : s'.rentalAgreements = s.rentalAgreements) :
    Reconciled s' sums fees pending := by
  refine ⟨?_, ?_, ?_, ?_⟩
  · intro u r hr
    exact h.request u r (hrequests ▸ hr)
  · intro i a ha
    exact h.agreement i a (hagreements ▸ ha)
  · rintro u ⟨hrequest, hnone⟩ hpending
    exact h.opening u ⟨hrequests ▸ hrequest, hagreements ▸ hnone⟩ hpending
  · intro i hi
    exact h.unrented i (hagreements ▸ hi)

/-- Without pending conversions the books are about the users and payments of agreements only. -/
theorem Reconciled.of_payments (h : Reconciled s sums fees 0)
    (hrequests : s'.rentalRequests = s.rentalRequests)
    (hagreements : ∀ (i : Principal) a, s'.rentalAgreements[i]? = some a →
      ∃ b, s.rentalAgreements[i]? = some b ∧ b.user = a.user ∧ b.totalIcpPaid = a.totalIcpPaid)
    (hrented : ∀ i : Principal, s'.rentalAgreements[i]? = none → s.rentalAgreements[i]? = none) :
    Reconciled s' sums fees 0 := by
  refine ⟨?_, ?_, fun _ _ hpending ↦ absurd rfl hpending, fun i hi ↦ h.unrented i (hrented i hi)⟩
  · intro u r hr
    exact h.request u r (hrequests ▸ hr)
  · intro i a ha
    obtain ⟨b, hb, huser, hpaid⟩ := hagreements i a ha
    have hold := h.agreement i b hb
    rwa [huser, hpaid] at hold

theorem Reconciled.of_quiet (h : Reconciled s sums fees pending) (hquiet : Quiet s s') :
    Reconciled s' sums fees pending :=
  h.of_maps hquiet.rentalRequests hquiet.rentalAgreements

/-! ### The changes of the records -/

/-- A new version of the request of a user without agreement records everything that was taken. -/
theorem Reconciled.recorded {user : Principal} {amount : ℕ}
    (h : Reconciled s sums fees (Pi.single user amount)) {r : RentalRequest}
    (hsum : sums user = r.lockedAmountIcp.e8s)
    (hnone : ∀ (i : Principal) a, s.rentalAgreements[i]? = some a → a.user ≠ user)
    (hrequests : s'.rentalRequests = s.rentalRequests.insert user r)
    (hagreements : s'.rentalAgreements = s.rentalAgreements) : Reconciled s' sums fees 0 := by
  refine ⟨?_, ?_, fun u _ hu ↦ absurd rfl hu, fun i hi ↦ h.unrented i (hagreements ▸ hi)⟩
  · intro u q hq
    rw [hrequests] at hq
    obtain ⟨rfl, rfl⟩ | ⟨hne, hq⟩ := getElem?_insert_eq_some_iff.mp hq
    · exact hsum
    · have hsum := h.request u q hq
      rwa [Pi.single_eq_of_ne hne.symm] at hsum
  · intro i a ha
    rw [hagreements] at ha
    have hsum := h.agreement i a ha
    rwa [Pi.single_eq_of_ne (hnone i a ha)] at hsum

/-- A proposal records the first tenth. -/
theorem Reconciled.opened {user : Principal} {amount : ℕ}
    (h : Reconciled s sums fees (Pi.single user amount)) (hpos : amount ≠ 0)
    (hnone : NoRental user s) {r : RentalRequest} (hr : r.lockedAmountIcp.e8s = amount)
    (hrequests : s'.rentalRequests = s.rentalRequests.insert user r)
    (hagreements : s'.rentalAgreements = s.rentalAgreements) : Reconciled s' sums fees 0 := by
  have hsum := h.opening user hnone (by rwa [Pi.single_eq_same])
  rw [Pi.single_eq_same] at hsum
  exact h.recorded (hsum.trans hr.symm) hnone.2 hrequests hagreements

/-- A pass of `locking` records a tenth. -/
theorem Reconciled.locked {user : Principal} {amount : ℕ} (hs : Consistent s)
    (h : Reconciled s sums fees (Pi.single user amount)) {r r' : RentalRequest}
    (hstored : s.rentalRequests[user]? = some r)
    (hr : r'.lockedAmountIcp.e8s = r.lockedAmountIcp.e8s + amount)
    (hrequests : s'.rentalRequests = s.rentalRequests.insert user r')
    (hagreements : s'.rentalAgreements = s.rentalAgreements) : Reconciled s' sums fees 0 := by
  have hsum := h.request user r hstored
  rw [Pi.single_eq_same] at hsum
  exact h.recorded (hsum.trans hr.symm) (fun i a ha ↦ hs.exclusive user i r a hstored ha)
    hrequests hagreements

/-- A creation records the cost. -/
theorem Reconciled.granted {user : Principal} (hs : Consistent s) {r : RentalRequest}
    (hstored : s.rentalRequests[user]? = some r)
    (h : Reconciled s sums fees (Pi.single user (remainingIcp r).e8s)) {a : RentalAgreement}
    (hfree : s.rentalAgreements[a.subnetId]? = none) (huser : a.user = user)
    (hpaid : a.totalIcpPaid = r.initialCostIcp)
    (hrequests : s'.rentalRequests = s.rentalRequests.erase user)
    (hagreements : s'.rentalAgreements = s.rentalAgreements.insert a.subnetId a) :
    Reconciled s' sums fees 0 := by
  have hlocked := lockedAmountIcp_le (hs.request_wellFormed user r hstored)
  refine ⟨?_, ?_, fun u _ hu ↦ absurd rfl hu, fun i hi ↦ ?_⟩
  · intro u q hq
    rw [hrequests] at hq
    obtain ⟨hne, hq⟩ := getElem?_erase_eq_some_iff.mp hq
    have hsum := h.request u q hq
    rwa [Pi.single_eq_of_ne hne.symm] at hsum
  · intro i b hb
    rw [hagreements] at hb
    obtain ⟨rfl, rfl⟩ | ⟨-, hb⟩ := getElem?_insert_eq_some_iff.mp hb
    · have hsum := h.request user r hstored
      rw [Pi.single_eq_same, remainingIcp, Tokens.sub_e8s] at hsum
      rw [huser, hsum, hpaid, Pi.zero_apply, h.unrented _ hfree]
      omega
    · have hsum := h.agreement i b hb
      rwa [Pi.single_eq_of_ne (hs.exclusive user i r b hstored hb)] at hsum
  · rw [hagreements] at hi
    exact h.unrented i (getElem?_insert_eq_none_iff.mp hi).2

/-- A cancelled request is no longer in the books. -/
theorem Reconciled.cancelled {user : Principal} (h : Reconciled s sums fees 0)
    (hrequests : s'.rentalRequests = s.rentalRequests.erase user)
    (hagreements : s'.rentalAgreements = s.rentalAgreements) : Reconciled s' sums fees 0 := by
  refine ⟨?_, ?_, fun u _ hu ↦ absurd rfl hu, fun i hi ↦ h.unrented i (hagreements ▸ hi)⟩
  · intro u r hr
    rw [hrequests] at hr
    exact h.request u r (getElem?_erase_eq_some_iff.mp hr).2
  · intro i a ha
    exact h.agreement i a (hagreements ▸ ha)

/-- A top-up records an amount, and a fee on top. -/
theorem Reconciled.toppedUp {subnetId : Principal} {amount fee : ℕ} (hs : Consistent s)
    {a b : RentalAgreement} (hstored : s.rentalAgreements[subnetId]? = some a)
    (h : Reconciled s sums fees (Pi.single a.user amount)) (huser : b.user = a.user)
    (hpaid : b.totalIcpPaid.e8s = a.totalIcpPaid.e8s + (amount + fee))
    (hrequests : s'.rentalRequests = s.rentalRequests)
    (hagreements : s'.rentalAgreements = s.rentalAgreements.insert subnetId b) :
    Reconciled s' sums (fees + Pi.single subnetId fee) 0 := by
  refine ⟨?_, ?_, fun u _ hu ↦ absurd rfl hu, fun i hi ↦ ?_⟩
  · intro u q hq
    rw [hrequests] at hq
    have hsum := h.request u q hq
    rwa [Pi.single_eq_of_ne (Ne.symm (hs.exclusive u subnetId q a hq hstored))] at hsum
  · intro i other hother
    rw [hagreements] at hother
    obtain ⟨rfl, rfl⟩ | ⟨hi, hother⟩ := getElem?_insert_eq_some_iff.mp hother
    · have hsum := h.agreement subnetId a hstored
      rw [Pi.single_eq_same] at hsum
      rw [huser, hpaid, Pi.add_apply, Pi.single_eq_same, Pi.zero_apply]
      omega
    · have hsum := h.agreement i other hother
      have hne : other.user ≠ a.user := fun hsame ↦
        hi (hs.unique subnetId i a other hstored hother hsame.symm)
      rw [Pi.single_eq_of_ne hne] at hsum
      rwa [Pi.add_apply, Pi.single_eq_of_ne (Ne.symm hi), Nat.add_zero]
  · rw [hagreements] at hi
    obtain ⟨hne, hi⟩ := getElem?_insert_eq_none_iff.mp hi
    rw [Pi.add_apply, h.unrented i hi, Pi.single_eq_of_ne (Ne.symm hne), Nat.add_zero]

/-! ### Answers -/

/-- The first conversion of a rental starts a sum. -/
theorem Reconciled.enter_opening {source : Principal} {amount : ℕ} (h : Reconciled s sums fees 0)
    (hnone : NoRental source s) :
    Reconciled s (Function.update sums source amount) fees (Pi.single source amount) := by
  have hother {u : Principal} (hu : u ≠ source) :
      Function.update sums source amount u = sums u ∧
        (Pi.single source amount : Principal → ℕ) u = 0 :=
    ⟨Function.update_of_ne hu _ _, Pi.single_eq_of_ne hu _⟩
  refine ⟨?_, ?_, ?_, h.unrented⟩
  · intro u r hr
    have hne : u ≠ source := by
      rintro rfl
      exact absurd (hnone.1.symm.trans hr) (by simp)
    rw [(hother hne).1, (hother hne).2]
    exact h.request u r hr
  · intro i a ha
    rw [(hother (hnone.2 i a ha)).1, (hother (hnone.2 i a ha)).2]
    exact h.agreement i a ha
  · intro u _ hpending
    by_cases hu : u = source
    · subst hu
      rw [Function.update_self, Pi.single_eq_same]
    · exact absurd (hother hu).2 hpending

/-- A later conversion adds to it. -/
theorem Reconciled.enter {source : Principal} {amount : ℕ} (h : Reconciled s sums fees 0)
    (hrental : ¬ NoRental source s) :
    Reconciled s (Function.update sums source (sums source + amount)) fees
      (Pi.single source amount) := by
  have hadd (u : Principal) : Function.update sums source (sums source + amount) u =
      sums u + (Pi.single source amount : Principal → ℕ) u := by
    by_cases hu : u = source
    · subst hu
      rw [Function.update_self, Pi.single_eq_same]
    · rw [Function.update_of_ne hu, Pi.single_eq_of_ne hu, Nat.add_zero]
  refine ⟨?_, ?_, ?_, h.unrented⟩
  · intro u r hr
    rw [hadd, h.request u r hr, Pi.zero_apply, Nat.add_zero]
  · intro i a ha
    have hsum := h.agreement i a ha
    rw [Pi.zero_apply] at hsum
    rw [hadd]
    omega
  · intro u hnone hpending
    have hu : u = source := by
      by_contra hne
      exact hpending (Pi.single_eq_of_ne hne _)
    subst hu
    exact absurd hnone hrental

theorem outgoing_of_conversion {frame : Frame} {amount : Tokens} {source : Principal}
    {stage : ConvertStage} (h : conversion frame = some (amount, source, stage)) :
    frame.outgoing = stage.outgoing amount source := by
  cases frame with
  | rentalRequestConvert | createConvert | topUpConvert | lockingConvert =>
    obtain ⟨rfl, rfl, rfl⟩ := by simpa [conversion] using h
    rfl
  | _ => cases h

theorem unrecorded_of_conversion {frame : Frame} {amount : Tokens} {source : Principal}
    {stage : ConvertStage} (h : conversion frame = some (amount, source, stage))
    (answer : Option Answer) : unrecorded frame answer = takenAt amount source stage answer := by
  cases frame with
  | rentalRequestConvert | createConvert | topUpConvert | lockingConvert =>
    obtain ⟨rfl, rfl, rfl⟩ := by simpa [conversion] using h
    rfl
  | _ => cases h

/-- Without a conversion an answer enters nothing. -/
theorem entered_of_none {frame : Frame} (h : conversion frame = none) (answer : Answer)
    (sums : Principal → ℕ) :
    entered sums frame answer = sums ∧ unrecorded frame (some answer) = unrecorded frame none := by
  cases frame with
  | rentalRequestConvert | createConvert | topUpConvert | lockingConvert => cases h
  | _ => exact ⟨rfl, rfl⟩

/-- The user of a conversion that does not open a rental has one. -/
theorem rental_of_conversion {frame : Frame} {amount : Tokens} {source : Principal}
    {stage : ConvertStage} (h : conversion frame = some (amount, source, stage))
    (hopens : opens frame = false) (hknows : Knows frame s)
    (hcurrent : ∀ nowNanos r tenPercentIcp rest stage,
      frame = .lockingConvert nowNanos r tenPercentIcp rest stage →
        s.rentalRequests[r.user]? = some r) : ¬ NoRental source s := by
  rintro ⟨hrequest, hagreement⟩
  cases frame with
  | rentalRequestConvert => cases hopens
  | createConvert payload r period remaining stage =>
    obtain ⟨-, rfl, -⟩ := by simpa [conversion] using h
    exact absurd (hrequest.symm.trans hknows.1) (by simp)
  | topUpConvert subnetId a balance icp stage =>
    obtain ⟨-, rfl, -⟩ := by simpa [conversion] using h
    exact hagreement subnetId a hknows.1 rfl
  | lockingConvert nowNanos r tenPercentIcp rest stage =>
    obtain ⟨-, rfl, -⟩ := by simpa [conversion] using h
    exact absurd (hrequest.symm.trans (hcurrent nowNanos r tenPercentIcp rest stage rfl)) (by simp)
  | _ => cases h

/-- What an answer takes is entered, and not recorded yet. -/
theorem Reconciled.answered {frame : Frame} (h : Reconciled s sums fees (unrecorded frame none))
    (hknows : Knows frame s)
    (hcurrent : ∀ nowNanos r tenPercentIcp rest stage,
      frame = .lockingConvert nowNanos r tenPercentIcp rest stage →
        s.rentalRequests[r.user]? = some r) (answer : Answer) :
    Reconciled s (entered sums frame answer) fees (unrecorded frame (some answer)) := by
  cases hconversion : conversion frame with
  | none =>
    obtain ⟨hentered, hsame⟩ := entered_of_none hconversion answer sums
    rw [hentered, hsame]
    exact h
  | some source =>
    obtain ⟨amount, source, stage⟩ := source
    have houtgoing := outgoing_of_conversion hconversion
    rw [unrecorded_of_conversion hconversion] at h ⊢
    unfold entered
    rw [houtgoing]
    cases stage with
    | notify blockIndex => exact h
    | transfer =>
      cases answer with
      | transfer result =>
        cases result with
        | error e => exact h
        | ok blockIndex =>
          change Reconciled s (Function.update sums source
            ((if opens frame then 0 else sums source) + taken amount)) fees
              (Pi.single source (taken amount))
          cases hopens : opens frame with
          | false => exact h.enter (rental_of_conversion hconversion hopens hknows hcurrent)
          | true =>
            cases frame with
            | rentalRequestConvert payload needed lock stage =>
              obtain ⟨-, rfl, -⟩ := by simpa [conversion] using hconversion
              rw [if_pos rfl, Nat.zero_add]
              exact h.enter_opening hknows.1
            | _ => cases hopens
      | _ => exact h

end SubnetRental.Icp
