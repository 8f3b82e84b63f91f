import SubnetRental.Cycles.Status
import SubnetRental.Locking.Passes

/-!
# A top-up and a proposal that run alone

With a ledger that accepts exactly the covered transfers and a CMC that accepts every call
(`cooperative`), `top_up_alone` and `proposal_alone` say how `top_up_subnet` and
`execute_rental_request_proposal` end when nothing else happens during the call. A top-up succeeds
exactly when the subaccount holds two fees and the sum of the ICP paid fits into 64 bits. It leaves
a fee. A proposal opens a request exactly when its user has neither a request nor an agreement,
nobody has requested the same condition, the subaccount covers the price, and a tenth of the price
covers a fee. In the other cases the call ends with an error or traps, and the requests, the
agreements, the guards and the ICP are as before; only a sum that does not fit is noticed after the
conversion.
-/

set_option autoImplicit false
set_option relaxedAutoImplicit false

namespace SubnetRental.Icp

open Canister Cycles Lifecycle Locking Foundation.GuardedCalls Foundation.MachineInteger
open Foundation.TransitionSystem Foundation.TreeMapTotals Std

/-- The requests, the agreements, the guards and the ICP are as before. -/
structure Untouched (w w' : World) : Prop where
  rentalRequests : w'.canister.rentalRequests = w.canister.rentalRequests
  rentalAgreements : w'.canister.rentalAgreements = w.canister.rentalAgreements
  locks : w'.canister.locks = w.canister.locks
  balance : w'.balance = w.balance

/-! ### `top_up_subnet` -/

/-- What the conversion of a top-up leaves behind: its user has one fee left. -/
structure Converted (a : RentalAgreement) (actualCycles : ℕ) (w w' : World) : Prop where
  rentalRequests : w'.canister.rentalRequests = w.canister.rentalRequests
  locks : w'.canister.locks = w.canister.locks
  cycles : w'.canister.cycles = w.canister.cycles + actualCycles
  balance : w'.balance a.user = defaultFee.e8s
  others : ∀ user, user ≠ a.user → w'.balance user = w.balance user

/-- How a top-up that runs alone ends. -/
inductive TopUpAlone (subnetId : Principal) (w w' : World) : Except Trap Response → Prop
  | unknown (hnone : w.canister.rentalAgreements[subnetId]? = none) (hsame : Untouched w w') :
      TopUpAlone subnetId w w' (.ok (.topUp (.error .agreementNotFound)))
  | unfunded (a : RentalAgreement) (hstored : w.canister.rentalAgreements[subnetId]? = some a)
      (hless : w.balance a.user < defaultFee.e8s) (hsame : Untouched w w') :
      TopUpAlone subnetId w w'
        (.ok (.topUp (.error (.insufficientFunds a.user ⟨w.balance a.user⟩))))
  | underflow (a : RentalAgreement) (hstored : w.canister.rentalAgreements[subnetId]? = some a)
      (hfee : defaultFee.e8s ≤ w.balance a.user) (hless : w.balance a.user < 2 * defaultFee.e8s)
      (hsame : Untouched w w') : TopUpAlone subnetId w w' (.error .tokensUnderflow)
  | overflow (a : RentalAgreement) (actualCycles : ℕ)
      (hstored : w.canister.rentalAgreements[subnetId]? = some a)
      (hheld : 2 * defaultFee.e8s ≤ w.balance a.user)
      (htoo : 2 ^ 64 ≤ a.totalIcpPaid.e8s + w.balance a.user)
      (hagreements : w'.canister.rentalAgreements = w.canister.rentalAgreements)
      (hconverted : Converted a actualCycles w w') :
      TopUpAlone subnetId w w' (.error .tokensOverflow)
  | funded (a : RentalAgreement) (actualCycles : ℕ)
      (hstored : w.canister.rentalAgreements[subnetId]? = some a)
      (hheld : 2 * defaultFee.e8s ≤ w.balance a.user)
      (hfits : a.totalIcpPaid.e8s + w.balance a.user < 2 ^ 64)
      (hagreements : w'.canister.rentalAgreements = w.canister.rentalAgreements.insert subnetId
        (toppedUpAgreement a a (standardConditions a.rentalConditionId).dailyCostCycles actualCycles
          ⟨w.balance a.user⟩))
      (hconverted : Converted a actualCycles w w') :
      TopUpAlone subnetId w w' (.ok (.topUp (.ok
        { cyclesAdded := actualCycles
          daysAdded := daysPaid (standardConditions a.rentalConditionId).dailyCostCycles
            actualCycles })))

/-- What the conversion of a top-up takes from a subaccount that holds two fees. -/
theorem taken_topUp {held : ℕ} (h : 2 * defaultFee.e8s ≤ held) :
    taken (⟨held⟩ - defaultFee) ≤ held ∧ held - taken (⟨held⟩ - defaultFee) = defaultFee.e8s := by
  have htaken : taken (⟨held⟩ - defaultFee) =
      held - defaultFee.e8s - defaultFee.e8s + defaultFee.e8s := by
    unfold taken
    rw [Tokens.sub_e8s, Tokens.sub_e8s]
  omega

section TopUp

variable {subnetId : Principal} {a : RentalAgreement} {w v : World}

/-- A top-up whose transfer was accepted. -/
theorem ensuresFrom_topUpNotify (hw : Consistent w.canister)
    (hstored : w.canister.rentalAgreements[subnetId]? = some a)
    (hfree : agreementLock subnetId ∉ w.canister.locks)
    (hheld : 2 * defaultFee.e8s ≤ w.balance a.user) (blockIndex : ℕ)
    (hcanister : v.canister =
      { w.canister with locks := insert (agreementLock subnetId) w.canister.locks })
    (hbalance : ∀ user, v.balance user = w.balance user -
      if a.user = user then taken (⟨w.balance a.user⟩ - defaultFee) else 0) :
    service.EnsuresFrom cooperative (.topUpConvert subnetId a ⟨w.balance a.user⟩
      (⟨w.balance a.user⟩ - defaultFee) (.notify blockIndex)) v (TopUpAlone subnetId w) := by
  refine Service.ensuresFrom_of_answers ⟨.notifyTopUp (.ok 0), rfl, rfl⟩ ?_
  rintro answer ⟨-, hsuccessful⟩
  cases answer <;> try cases hsuccessful
  case notifyTopUp result =>
    cases result with
    | error e => cases hsuccessful
    | ok actualCycles =>
      have hconverted {u : World}
          (hrequests : u.canister.rentalRequests = v.canister.rentalRequests)
          (hlocks : u.canister.locks = v.canister.locks \ {agreementLock subnetId})
          (hcycles : u.canister.cycles = v.canister.cycles + actualCycles)
          (hsame : u.balance = v.balance) : Converted a actualCycles w u := by
        refine ⟨?_, ?_, ?_, ?_, fun user hne ↦ ?_⟩
        · rw [hrequests, hcanister]
        · rw [hlocks, hcanister]
          exact released hfree
        · rw [hcycles, hcanister]
        · rw [hsame, hbalance, if_pos rfl]
          exact (taken_topUp hheld).2
        · rw [hsame, hbalance, if_neg (Ne.symm hne), Nat.sub_zero]
      have hconditions : v.canister.rentalConditions a.rentalConditionId =
          some (standardConditions a.rentalConditionId) := by
        rw [hcanister]
        exact hw.conditions a.rentalConditionId
      have hstored' : v.canister.rentalAgreements[subnetId]? = some a := by
        rw [hcanister]
        exact hstored
      change service.Continues cooperative _ _ _ ((topUpAfterConvert subnetId a _ _
        { v.canister with cycles := v.canister.cycles + actualCycles }
          (.ok (blockIndex, actualCycles))).mapState _)
      obtain ⟨htoo, htraps⟩ | ⟨hfits, s', hreply, hrequests, hagreements, hlocks, hcycles⟩ :=
        topUpAfterConvert_of_stored
          (s := { v.canister with cycles := v.canister.cycles + actualCycles })
          ⟨w.balance a.user⟩ (⟨w.balance a.user⟩ - defaultFee) blockIndex actualCycles hconditions
          (perSecond_ne_zero a.rentalConditionId) hstored'
      · rw [htraps]
        refine .overflow a actualCycles hstored hheld htoo ?_ (hconverted rfl rfl rfl rfl)
        change v.canister.rentalAgreements = _
        rw [hcanister]
      · rw [hreply]
        refine .funded a actualCycles hstored hheld hfits ?_
          (hconverted hrequests hlocks hcycles rfl)
        change s'.rentalAgreements = _
        rw [hagreements, hcanister]

/-- A top-up that waits for its transfer. -/
theorem ensuresFrom_topUpTransfer (hw : Consistent w.canister)
    (hstored : w.canister.rentalAgreements[subnetId]? = some a)
    (hfree : agreementLock subnetId ∉ w.canister.locks)
    (hheld : 2 * defaultFee.e8s ≤ w.balance a.user)
    (hcanister : v.canister =
      { w.canister with locks := insert (agreementLock subnetId) w.canister.locks })
    (hbalance : v.balance = w.balance) :
    service.EnsuresFrom cooperative (.topUpConvert subnetId a ⟨w.balance a.user⟩
      (⟨w.balance a.user⟩ - defaultFee) .transfer) v (TopUpAlone subnetId w) := by
  have hcovers : Covers v a.user (⟨w.balance a.user⟩ - defaultFee - defaultFee) := by
    change taken (⟨w.balance a.user⟩ - defaultFee) ≤ v.balance a.user
    rw [hbalance]
    exact (taken_topUp hheld).1
  refine Service.ensuresFrom_of_answers ⟨.transfer (.ok 0), decide_eq_true hcovers, rfl⟩ ?_
  rintro answer ⟨htruthful, -⟩
  cases answer <;> try cases htruthful
  case transfer result =>
    cases result with
    | error e => exact absurd hcovers (of_decide_eq_true htruthful)
    | ok blockIndex =>
      have hpaid (user : Principal) :
          (v.debit a.user (⟨w.balance a.user⟩ - defaultFee - defaultFee)).balance user =
            w.balance user -
              if a.user = user then taken (⟨w.balance a.user⟩ - defaultFee) else 0 := by
        rw [debit_balance, hbalance]
        rfl
      exact ensuresFrom_topUpNotify hw hstored hfree hheld blockIndex hcanister hpaid

/-- A top-up that waits for the balance. -/
theorem ensuresFrom_topUpBalance (hw : Consistent w.canister)
    (hstored : w.canister.rentalAgreements[subnetId]? = some a)
    (hfree : agreementLock subnetId ∉ w.canister.locks)
    (hcanister : v.canister =
      { w.canister with locks := insert (agreementLock subnetId) w.canister.locks })
    (hbalance : v.balance = w.balance) :
    service.EnsuresFrom cooperative (.topUpBalance subnetId a) v (TopUpAlone subnetId w) := by
  refine Service.ensuresFrom_of_answers
    ⟨.accountBalance ⟨v.balance a.user⟩, decide_eq_true rfl, rfl⟩ ?_
  rintro answer ⟨htruthful, -⟩
  cases answer <;> try cases htruthful
  case accountBalance userIcpBalance =>
    obtain rfl : userIcpBalance = ⟨w.balance a.user⟩ := by
      rw [← hbalance]
      exact congrArg Tokens.mk (of_decide_eq_true htruthful)
    change service.Continues cooperative _ v _
      ((resumeTopUpBalance subnetId a (.accountBalance ⟨w.balance a.user⟩)
        v.canister).mapState _)
    unfold resumeTopUpBalance
    dsimp only
    have hsame {t : State} (hrequests : t.rentalRequests = v.canister.rentalRequests)
        (hagreements : t.rentalAgreements = v.canister.rentalAgreements)
        (hlocks : t.locks = v.canister.locks \ {agreementLock subnetId}) :
        Untouched w { v with canister := t } := by
      refine ⟨?_, ?_, ?_, hbalance⟩
      · rw [hrequests, hcanister]
      · rw [hagreements, hcanister]
      · rw [hlocks, hcanister]
        exact released hfree
    split_ifs with hless
    · exact .unfunded a hstored hless (hsame rfl rfl rfl)
    · have hfee : defaultFee.e8s ≤ w.balance a.user := Nat.le_of_not_lt hless
      -- The balance less a fee has to cover the fee of the transfer.
      obtain hpoor | hheld := Nat.lt_or_ge (w.balance a.user) (2 * defaultFee.e8s)
      · have hlt : ((⟨w.balance a.user⟩ : Tokens) - defaultFee).e8s < defaultFee.e8s := by
          rw [Tokens.sub_e8s]
          dsimp only
          omega
        rw [beginConvert_of_lt hlt]
        exact .underflow a hstored hfee hpoor (hsame rfl rfl rfl)
      · have hle : defaultFee ≤ (⟨w.balance a.user⟩ - defaultFee : Tokens) := by
          rw [Tokens.le_iff, Tokens.sub_e8s]
          dsimp only
          omega
        rw [beginConvert_of_le hle]
        exact ensuresFrom_topUpTransfer hw hstored hfree hheld hcanister hbalance

end TopUp

/-- A top-up of a subnet succeeds: it is rented, its user holds two fees, and what is recorded as
paid does not overflow. -/
def TopUpSucceeds (subnetId : Principal) (w : World) : Prop :=
  ∃ a, w.canister.rentalAgreements[subnetId]? = some a ∧ 2 * defaultFee.e8s ≤ w.balance a.user ∧
    a.totalIcpPaid.e8s + w.balance a.user < 2 ^ 64

/-- From every reachable state a top-up of a subnet whose guard is free runs to its end, and it ends
with the cycles for what the user holds exactly when the subnet is rented, the user holds two fees
and the sum of the ICP paid fits. -/
theorem top_up_alone {cycles : ℕ} {c : Configuration} (h : (system cycles).Reachable c)
    {subnetId : Principal} (hfree : agreementLock subnetId ∉ c.state.canister.locks) :
    service.Ensures cooperative (.topUpSubnet subnetId) c.state fun w' result ↦
      TopUpAlone subnetId c.state w' result ∧
        ((∃ summary, result = .ok (.topUp (.ok summary))) ↔ TopUpSucceeds subnetId c.state) := by
  have hend : service.Ensures cooperative (.topUpSubnet subnetId) c.state
      (TopUpAlone subnetId c.state) := by
    refine Service.ensures_of_proceeds ?_
    change service.Proceeds cooperative _ ((topUpSubnet subnetId c.state.canister).mapState _)
    unfold topUpSubnet State.callerGuard State.getRentalAgreement
    rw [if_neg hfree]
    dsimp only
    cases hstored : c.state.canister.rentalAgreements[subnetId]? with
    | none => exact .unknown hstored ⟨rfl, rfl, released hfree, rfl⟩
    | some a =>
      exact ensuresFrom_topUpBalance (sound_of_reachable h).inv.consistent hstored hfree rfl rfl
  refine hend.mono fun w' result hresult ↦ ⟨hresult, ?_⟩
  cases hresult with
  | unknown hnone =>
    refine iff_of_false nofun ?_
    rintro ⟨a, hstored, -⟩
    cases hnone.symm.trans hstored
  | unfunded a hstored hless =>
    refine iff_of_false nofun ?_
    rintro ⟨b, hstored', hheld, -⟩
    obtain rfl := Option.some.inj (hstored.symm.trans hstored')
    omega
  | underflow a hstored hfee hless =>
    refine iff_of_false nofun ?_
    rintro ⟨b, hstored', hheld, -⟩
    obtain rfl := Option.some.inj (hstored.symm.trans hstored')
    omega
  | overflow a actualCycles hstored hheld htoo =>
    refine iff_of_false nofun ?_
    rintro ⟨b, hstored', -, hfits⟩
    obtain rfl := Option.some.inj (hstored.symm.trans hstored')
    exact absurd hfits (Nat.not_lt_of_le htoo)
  | funded a actualCycles hstored hheld hfits =>
    exact iff_of_true ⟨_, rfl⟩ ⟨a, hstored, hheld, hfits⟩

/-- A top-up of Alice's agreement right after its creation. -/
theorem top_up_alone_afterGrant :
    (afterGrant.state.canister.rentalAgreements[aliceCreation.subnetId]?).any
        (fun a ↦ 2 * defaultFee.e8s ≤ afterGrant.state.balance a.user) ∧
      service.Ensures cooperative (.topUpSubnet aliceCreation.subnetId) afterGrant.state
        fun w' result ↦ TopUpAlone aliceCreation.subnetId afterGrant.state w' result ∧
          ((∃ summary, result = .ok (.topUp (.ok summary))) ↔
            TopUpSucceeds aliceCreation.subnetId afterGrant.state) :=
  ⟨by decide +kernel, top_up_alone afterGrant_reachable (by decide +kernel)⟩

/-! ### `execute_rental_request_proposal` -/

/-- A truthful ledger, a CMC that accepts every call, and an exchange rate canister that quotes a
rate. -/
def quoting (rate : ℕ × ℕ) (frame : Frame) (answer : Answer) (w : World) : Prop :=
  cooperative frame answer w ∧
    ∀ time, frame.outgoing = .getExchangeRate time → answer = .exchangeRate (.ok rate)

/-- A rate is cached for a time, or the canister can pay for asking. -/
def Quoted (rate : ℕ × ℕ) (time : ℕ) (s : State) : Prop :=
  s.getCachedRate time = some rate ∨
    s.getCachedRate time = none ∧ exchangeRateFee ≤ s.cycles - s.reserve

/-- The price that a proposal computes at a rate. -/
def priceAt (payload : SubnetRentalProposalPayload) (rate : ℕ × ℕ) :
    Except ExecuteProposalError Tokens :=
  calculateSubnetPrice (standardConditions payload.rentalConditionId).dailyCostCycles
    (standardConditions payload.rentalConditionId).initialRentalPeriodDays rate.1 rate.2

/-- The user of a proposal rents nothing, and nobody has requested the same condition. -/
structure Eligible (payload : SubnetRentalProposalPayload) (s : State) : Prop where
  noRental : NoRental payload.user s
  unrequested : ∀ (user : Principal) r, s.rentalRequests[user]? = some r →
    r.rentalConditionId ≠ payload.rentalConditionId

/-- A proposal can open a request at a price. -/
structure Openable (payload : SubnetRentalProposalPayload) (rate : ℕ × ℕ) (price : Tokens)
    (w : World) : Prop where
  eligible : Eligible payload w.canister
  priced : priceAt payload rate = .ok price
  funded : price.e8s ≤ w.balance payload.user
  fee_le : defaultFee.e8s ≤ price.e8s / 10

/-- What an error of a proposal says about the world in which the proposal was executed. -/
def Blames (payload : SubnetRentalProposalPayload) (rate : ℕ × ℕ) (w : World) :
    ExecuteProposalError → Prop
  | .userAlreadyRequestingSubnetRental => ∃ r, w.canister.rentalRequests[payload.user]? = some r
  | .userAlreadyHasAgreement =>
    ∃ (i : Principal) (a : RentalAgreement), w.canister.rentalAgreements[i]? = some a ∧
      a.user = payload.user
  | .subnetAlreadyRequested =>
    ∃ (user : Principal) (r : RentalRequest), w.canister.rentalRequests[user]? = some r ∧
      r.rentalConditionId = payload.rentalConditionId
  | .priceCalculationError data => priceAt payload rate = .error (.priceCalculationError data)
  | .insufficientFunds available need =>
    available.e8s = w.balance payload.user ∧ priceAt payload rate = .ok need ∧ available < need
  | _ => False

/-- A proposal that fails could not open a request. -/
theorem not_openable_of_blames {payload : SubnetRentalProposalPayload} {rate : ℕ × ℕ} {w : World}
    {e : ExecuteProposalError} (h : Blames payload rate w e) (price : Tokens) :
    ¬ Openable payload rate price w := by
  intro hopenable
  cases e <;> try exact h.elim
  case userAlreadyRequestingSubnetRental =>
    obtain ⟨r, hstored⟩ := h
    rw [hopenable.eligible.noRental.1] at hstored
    cases hstored
  case userAlreadyHasAgreement =>
    obtain ⟨i, a, hstored, huser⟩ := h
    exact hopenable.eligible.noRental.2 i a hstored huser
  case subnetAlreadyRequested =>
    obtain ⟨user, r, hstored, hsame⟩ := h
    exact hopenable.eligible.unrequested user r hstored hsame
  case priceCalculationError data =>
    cases hopenable.priced.symm.trans h
  case insufficientFunds available need =>
    obtain ⟨havailable, hprice, hless⟩ := h
    obtain rfl := Except.ok.inj (hopenable.priced.symm.trans hprice)
    have hless : available.e8s < price.e8s := hless
    have := hopenable.funded
    omega

/-- A proposal opened a request and converted a tenth of the price. -/
structure RequestOpened (payload : SubnetRentalProposalPayload) (price : Tokens)
    (lockedCycles : ℕ) (w w' : World) : Prop where
  rentalRequests : w'.canister.rentalRequests = w.canister.rentalRequests.insert payload.user
    (openedRequest payload price ⟨price.e8s / 10⟩ lockedCycles w.canister.now)
  rentalAgreements : w'.canister.rentalAgreements = w.canister.rentalAgreements
  locks : w'.canister.locks = w.canister.locks
  balance : w'.balance payload.user = w.balance payload.user - price.e8s / 10
  others : ∀ user, user ≠ payload.user → w'.balance user = w.balance user

/-- How a proposal that runs alone ends. -/
inductive ProposalAlone (payload : SubnetRentalProposalPayload) (rate : ℕ × ℕ) (w w' : World) :
    Except Trap Response → Prop
  | opened (price : Tokens) (lockedCycles : ℕ) (hopenable : Openable payload rate price w)
      (hopened : RequestOpened payload price lockedCycles w w') :
      ProposalAlone payload rate w w' (.ok (.executed (.ok ())))
  | refused (e : ExecuteProposalError) (hblames : Blames payload rate w e)
      (hsame : Untouched w w') : ProposalAlone payload rate w w' (.ok (.executed (.error e)))
  | underflow (price : Tokens) (heligible : Eligible payload w.canister)
      (hpriced : priceAt payload rate = .ok price) (hfunded : price.e8s ≤ w.balance payload.user)
      (hless : price.e8s / 10 < defaultFee.e8s) (hsame : Untouched w w') :
      ProposalAlone payload rate w w' (.error .tokensUnderflow)

/-- During a proposal, the canister as before it but for the guard. -/
structure During (payload : SubnetRentalProposalPayload) (s t : State) : Prop where
  rentalRequests : t.rentalRequests = s.rentalRequests
  rentalAgreements : t.rentalAgreements = s.rentalAgreements
  locks : t.locks = insert (requestLock payload.user) s.locks
  now : t.now = s.now

section Proposal

variable {payload : SubnetRentalProposalPayload} {rate : ℕ × ℕ} {w v : World} {price : Tokens}

/-- A proposal that ends with its guard released has left the rest as it was. -/
theorem During.untouched (hfree : requestLock payload.user ∉ w.canister.locks) {s : State}
    (hduring : During payload w.canister s) (hbalance : v.balance = w.balance) :
    Untouched w { v with canister := s.dropGuards {requestLock payload.user} } := by
  refine ⟨hduring.rentalRequests, hduring.rentalAgreements, ?_, hbalance⟩
  change s.locks \ {requestLock payload.user} = _
  rw [hduring.locks]
  exact released hfree

/-- The end of a proposal with an error. -/
theorem refused_of_failed (hfree : requestLock payload.user ∉ w.canister.locks)
    {s : State} (hduring : During payload w.canister s) (hbalance : v.balance = w.balance)
    {e : ExecuteProposalError} (hblames : Blames payload rate w e) :
    service.Proceeds (quoting rate) (ProposalAlone payload rate w)
      ((rentalRequestFailed payload e s).mapState fun s ↦ { v with canister := s }) := by
  obtain ⟨hrequests, hagreements, hlocks, hsame⟩ := hduring.untouched hfree hbalance
  exact .refused e hblames ⟨hrequests, hagreements, hlocks, hsame⟩

/-- A proposal whose transfer was accepted. -/
theorem ensuresFrom_proposalNotify (hfree : requestLock payload.user ∉ w.canister.locks)
    (hopenable : Openable payload rate price w) (blockIndex : ℕ)
    (hduring : During payload w.canister v.canister)
    (hbalance : ∀ user, v.balance user = w.balance user -
      if payload.user = user then price.e8s / 10 else 0) :
    service.EnsuresFrom (quoting rate)
      (.rentalRequestConvert payload price ⟨price.e8s / 10⟩ (.notify blockIndex)) v
      (ProposalAlone payload rate w) := by
  refine Service.ensuresFrom_of_answers ⟨.notifyTopUp (.ok 0), ⟨rfl, rfl⟩, fun _ h ↦ by cases h⟩ ?_
  rintro answer ⟨⟨-, hsuccessful⟩, -⟩
  cases answer <;> try cases hsuccessful
  case notifyTopUp result =>
    cases result with
    | error e => cases hsuccessful
    | ok lockedCycles =>
      change service.Continues (quoting rate) _ _ _ ((rentalRequestAfterConvert payload price
        ⟨price.e8s / 10⟩ { v.canister with cycles := v.canister.cycles + lockedCycles }
        (.ok (blockIndex, lockedCycles))).mapState _)
      have hnone : v.canister.rentalRequests[payload.user]? = none := by
        rw [hduring.rentalRequests]
        exact hopenable.eligible.noRental.1
      unfold rentalRequestAfterConvert State.persistRentalRequest
      simp only [State.persistEvent_rentalRequests, State.persistEvent_now, hnone]
      refine .opened price lockedCycles hopenable ⟨?_, hduring.rentalAgreements, ?_, ?_,
        fun user hne ↦ ?_⟩
      · change v.canister.rentalRequests.insert payload.user
          (openedRequest payload price ⟨price.e8s / 10⟩ lockedCycles v.canister.now) = _
        rw [hduring.rentalRequests, hduring.now]
      · change v.canister.locks \ {requestLock payload.user} = _
        rw [hduring.locks]
        exact released hfree
      · change v.balance payload.user = _
        rw [hbalance, if_pos rfl]
      · change v.balance user = _
        rw [hbalance, if_neg (Ne.symm hne), Nat.sub_zero]

/-- A proposal that waits for its transfer: who holds the price holds a tenth of it. -/
theorem ensuresFrom_proposalTransfer (hfree : requestLock payload.user ∉ w.canister.locks)
    (hopenable : Openable payload rate price w) (hduring : During payload w.canister v.canister)
    (hbalance : v.balance = w.balance) :
    service.EnsuresFrom (quoting rate)
      (.rentalRequestConvert payload price ⟨price.e8s / 10⟩ .transfer) v
      (ProposalAlone payload rate w) := by
  have htaken : taken ⟨price.e8s / 10⟩ = price.e8s / 10 := (taken_eq_iff _).mpr hopenable.fee_le
  have hcovers : Covers v payload.user (⟨price.e8s / 10⟩ - defaultFee) := by
    change taken ⟨price.e8s / 10⟩ ≤ v.balance payload.user
    rw [htaken, hbalance]
    exact (Nat.div_le_self _ _).trans hopenable.funded
  refine Service.ensuresFrom_of_answers
    ⟨.transfer (.ok 0), ⟨decide_eq_true hcovers, rfl⟩, fun _ h ↦ by cases h⟩ ?_
  rintro answer ⟨⟨htruthful, -⟩, -⟩
  cases answer <;> try cases htruthful
  case transfer result =>
    cases result with
    | error e => exact absurd hcovers (of_decide_eq_true htruthful)
    | ok blockIndex =>
      have hpaid (user : Principal) :
          (v.debit payload.user (⟨price.e8s / 10⟩ - defaultFee)).balance user =
            w.balance user - if payload.user = user then price.e8s / 10 else 0 := by
        rw [debit_balance, hbalance]
        change _ - (if payload.user = user then taken ⟨price.e8s / 10⟩ else 0) = _
        rw [htaken]
      exact ensuresFrom_proposalNotify hfree hopenable blockIndex hduring hpaid

/-- A proposal that waits for the balance. -/
theorem ensuresFrom_proposalBalance (hfree : requestLock payload.user ∉ w.canister.locks)
    (heligible : Eligible payload w.canister) (hpriced : priceAt payload rate = .ok price)
    (hduring : During payload w.canister v.canister) (hbalance : v.balance = w.balance) :
    service.EnsuresFrom (quoting rate) (.rentalRequestBalance payload price) v
      (ProposalAlone payload rate w) := by
  refine Service.ensuresFrom_of_answers ⟨.accountBalance ⟨v.balance payload.user⟩,
    ⟨decide_eq_true rfl, rfl⟩, fun _ h ↦ by cases h⟩ ?_
  rintro answer ⟨⟨htruthful, -⟩, -⟩
  cases answer <;> try cases htruthful
  case accountBalance availableIcp =>
    have havailable : availableIcp.e8s = w.balance payload.user := by
      rw [← hbalance]
      exact of_decide_eq_true htruthful
    change service.Continues (quoting rate) _ v _
      ((resumeRentalRequestBalance payload price (.accountBalance availableIcp)
        v.canister).mapState _)
    unfold resumeRentalRequestBalance
    dsimp only
    split_ifs with hless
    · exact (refused_of_failed (e := .insufficientFunds availableIcp price) hfree hduring hbalance
        ⟨havailable, hpriced, hless⟩).continues _ _
    · have hfunded : price.e8s ≤ availableIcp.e8s := Nat.le_of_not_lt hless
      rw [havailable] at hfunded
      obtain hpoor | hfee := Nat.lt_or_ge (price.e8s / 10) defaultFee.e8s
      · rw [@beginConvert_of_lt ⟨price.e8s / 10⟩ hpoor]
        obtain ⟨hrequests, hagreements, hlocks, hsame⟩ := hduring.untouched hfree hbalance
        exact .underflow price heligible hpriced hfunded hpoor
          ⟨hrequests, hagreements, hlocks, hsame⟩
      · rw [@beginConvert_of_le ⟨price.e8s / 10⟩ hfee]
        exact ensuresFrom_proposalTransfer hfree ⟨heligible, hpriced, hfunded, hfee⟩ hduring
          hbalance

/-- A proposal that knows the rate. -/
theorem proceeds_afterRate (hfree : requestLock payload.user ∉ w.canister.locks)
    (heligible : Eligible payload w.canister) {s : State}
    (hduring : During payload w.canister s) (hbalance : v.balance = w.balance) :
    service.Proceeds (quoting rate) (ProposalAlone payload rate w)
      ((rentalRequestAfterRate payload (standardConditions payload.rentalConditionId) rate
        s).mapState fun s ↦ { v with canister := s }) := by
  unfold rentalRequestAfterRate
  split
  · rename_i e hprice
    have hpriced : priceAt payload rate = .error e := hprice
    obtain ⟨data, rfl⟩ : ∃ data, e = .priceCalculationError data := by
      unfold calculateSubnetPrice at hprice
      dsimp only at hprice
      split at hprice
      · exact ⟨_, (Except.error.inj hprice).symm⟩
      · cases hprice
    exact refused_of_failed hfree hduring hbalance hpriced
  · exact ensuresFrom_proposalBalance (v := { v with canister := s }) hfree heligible
      (by assumption) hduring hbalance

/-- A proposal that waits for the rate. -/
theorem ensuresFrom_proposalRate (hfree : requestLock payload.user ∉ w.canister.locks)
    (heligible : Eligible payload w.canister) (time : ℕ)
    (hduring : During payload w.canister v.canister) (hbalance : v.balance = w.balance) :
    service.EnsuresFrom (quoting rate)
      (.rentalRequestRate payload (standardConditions payload.rentalConditionId) time) v
      (ProposalAlone payload rate w) := by
  refine Service.ensuresFrom_of_answers ⟨.exchangeRate (.ok rate), ⟨rfl, rfl⟩, fun _ _ ↦ rfl⟩ ?_
  rintro answer ⟨-, hquoted⟩
  obtain rfl := hquoted time rfl
  obtain ⟨scaledRate, decimals⟩ := rate
  have hcached : During payload w.canister (v.canister.cacheRate time scaledRate decimals) :=
    ⟨hduring.rentalRequests, hduring.rentalAgreements, hduring.locks, hduring.now⟩
  exact (proceeds_afterRate hfree heligible hcached hbalance).continues _ _

/-- The first segment of a proposal whose user is not locked. -/
theorem proceeds_proposal (hw : Consistent w.canister)
    (hfree : requestLock payload.user ∉ w.canister.locks)
    (hquoted : Quoted rate (roundToPreviousMidnight payload.proposalCreationTimeSeconds)
      w.canister) :
    service.Proceeds (quoting rate) (ProposalAlone payload rate w)
      ((executeRentalRequestProposal governanceCanisterId payload w.canister).mapState
        fun s ↦ { w with canister := s }) := by
  unfold executeRentalRequestProposal State.callerGuard
  rw [if_neg (not_not_intro rfl), if_neg hfree]
  have hduring : During payload w.canister
      { w.canister with locks := insert (requestLock payload.user) w.canister.locks } :=
    ⟨rfl, rfl, rfl, rfl⟩
  have hconditions := hw.conditions payload.rentalConditionId
  dsimp only
  split
  · rename_i hrequest
    obtain ⟨r, hstored⟩ := Option.isSome_iff_exists.mp hrequest
    exact refused_of_failed (e := .userAlreadyRequestingSubnetRental) hfree hduring rfl ⟨r, hstored⟩
  · rename_i hrequest
    split
    · rename_i hagreement
      obtain ⟨⟨i, a⟩, hentry, huser⟩ := List.any_eq_true.mp hagreement
      exact refused_of_failed (e := .userAlreadyHasAgreement) hfree hduring rfl
        ⟨i, a, ExtTreeMap.mem_toList_iff_getElem?_eq_some.mp hentry, of_decide_eq_true huser⟩
    · rename_i hagreement
      have hnoRental : NoRental payload.user w.canister := noRental_of_checks hrequest hagreement
      split
      · rename_i hnone
        cases hnone.symm.trans hconditions
      · rename_i conditions hstored
        obtain rfl := Option.some.inj (hstored.symm.trans hconditions)
        split
        · rename_i hrented
          cases hcondition : payload.rentalConditionId <;>
            rw [hcondition] at hrented <;> cases hrented
        · split
          · rename_i hrequested
            obtain ⟨⟨user, r⟩, hentry, hsame⟩ := List.any_eq_true.mp hrequested
            exact refused_of_failed (e := .subnetAlreadyRequested) hfree hduring rfl
              ⟨user, r, ExtTreeMap.mem_toList_iff_getElem?_eq_some.mp hentry,
                of_decide_eq_true hsame⟩
          · rename_i hrequested
            have heligible : Eligible payload w.canister := by
              refine ⟨hnoRental, fun user r hstored hsame ↦ hrequested ?_⟩
              exact List.any_eq_true.mpr ⟨(user, r),
                ExtTreeMap.mem_toList_iff_getElem?_eq_some.mpr hstored, decide_eq_true hsame⟩
            unfold getExchangeRate
            obtain hcached | ⟨hnone, hpaid⟩ := hquoted
            · have hlookup : State.getCachedRate
                  { w.canister with locks := insert (requestLock payload.user) w.canister.locks }
                  (roundToPreviousMidnight payload.proposalCreationTimeSeconds) = some rate :=
                hcached
              rw [hlookup]
              exact proceeds_afterRate hfree heligible hduring rfl
            · have hlookup : State.getCachedRate
                  { w.canister with locks := insert (requestLock payload.user) w.canister.locks }
                  (roundToPreviousMidnight payload.proposalCreationTimeSeconds) = none :=
                hnone
              rw [hlookup]
              dsimp only
              rw [if_neg (Nat.not_lt.mpr hpaid)]
              exact ensuresFrom_proposalRate hfree heligible _ ⟨rfl, rfl, rfl, rfl⟩ rfl

/-- In a consistent state a proposal whose user is not locked runs to its end. -/
theorem ensures_proposal (hw : Consistent w.canister)
    (hfree : requestLock payload.user ∉ w.canister.locks)
    (hquoted : Quoted rate (roundToPreviousMidnight payload.proposalCreationTimeSeconds)
      w.canister) :
    service.Ensures (quoting rate) (.executeRentalRequestProposal governanceCanisterId payload) w
      (ProposalAlone payload rate w) :=
  Service.ensures_of_proceeds (proceeds_proposal hw hfree hquoted)

/-- From every reachable state a proposal whose user is not locked runs to its end, when a rate is
cached or quoted, and it opens a request exactly when it can. Otherwise its error names what it
failed for, or it traps because a tenth of the price is less than a fee, and nothing has changed. -/
theorem proposal_alone {cycles : ℕ} {c : Configuration} (h : (system cycles).Reachable c)
    (hfree : requestLock payload.user ∉ c.state.canister.locks)
    (hquoted : Quoted rate (roundToPreviousMidnight payload.proposalCreationTimeSeconds)
      c.state.canister) :
    service.Ensures (quoting rate) (.executeRentalRequestProposal governanceCanisterId payload)
      c.state fun w' result ↦ ProposalAlone payload rate c.state w' result ∧
        (result = .ok (.executed (.ok ())) ↔ ∃ price, Openable payload rate price c.state) := by
  have hend := ensures_proposal (sound_of_reachable h).inv.consistent hfree hquoted
  refine hend.mono fun w' result hresult ↦ ⟨hresult, ?_⟩
  cases hresult with
  | opened price lockedCycles hopenable => exact iff_of_true rfl ⟨price, hopenable⟩
  | refused e hblames =>
    refine iff_of_false (fun h ↦ ?_) fun ⟨price, hopenable⟩ ↦
      not_openable_of_blames hblames price hopenable
    cases h
  | underflow price heligible hpriced _ hless =>
    refine iff_of_false nofun ?_
    rintro ⟨price', hopenable⟩
    obtain rfl := Except.ok.inj (hopenable.priced.symm.trans hpriced)
    exact absurd hopenable.fee_le (Nat.not_le_of_lt hless)

end Proposal

/-- Alice's proposal right after the installation. -/
theorem proposal_alone_alice :
    service.Ensures (quoting (3_500_000_000, 9))
      (.executeRentalRequestProposal governanceCanisterId aliceProposal)
      (installedWorld (10 ^ 12) fun _ ↦ 10 ^ 13) fun w' result ↦
        ProposalAlone aliceProposal (3_500_000_000, 9) (installedWorld (10 ^ 12) fun _ ↦ 10 ^ 13) w'
            result ∧
          (result = .ok (.executed (.ok ())) ↔ ∃ price, Openable aliceProposal (3_500_000_000, 9)
            price (installedWorld (10 ^ 12) fun _ ↦ 10 ^ 13)) :=
  proposal_alone (.init (init_idle (10 ^ 12) fun _ ↦ 10 ^ 13)) (by decide +kernel)
    (.inr ⟨by decide +kernel, by decide +kernel⟩)

end SubnetRental.Icp
