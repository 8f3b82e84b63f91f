import SubnetRental.Canister.Types
import SubnetRental.Foundation.TreeMapTotals

/-!
# The state of the canister and the event history

The stable maps and thread-local cells of `canister_state.rs` and the events of `history.rs`,
together with what the system exposes to the canister: the time, the cycle balance and the part of
the balance that the freezing limit keeps from being burned. `exchangeRateCalls` counts the calls
made to the exchange rate canister so far; the canister does not store it.

Every operation on the state has its projections as simp lemmas, so that a proof about a segment
never unfolds one of them.
-/

set_option autoImplicit false
set_option relaxedAutoImplicit false

namespace SubnetRental.Canister

open Foundation.MachineInteger Foundation.TreeMapTotals Std

/-! ### Events -/

/-- The events the canister emits. A reason is the error whose text the source records. -/
inductive EventType
  | rentalConditionsChanged (rentalConditionId : RentalConditionId)
      (rentalConditions : Option RentalConditions)
  | rentalRequestCreated (rentalRequest : RentalRequest)
  | rentalRequestFailed (user : Principal) (proposalId : ℕ) (reason : ExecuteProposalError)
  | rentalRequestCancelled (rentalRequest : RentalRequest)
  | rentalAgreementCreated (user : Principal) (rentalRequestProposalId : ℕ)
      (subnetCreationProposalId : Option ℕ) (rentalConditionId : RentalConditionId)
  | transferSuccess (amount : Tokens) (blockIndex : ℕ)
  | lockingSuccess (user : Principal) (amount : Tokens) (cycles : ℕ)
  | lockingFailure (user : Principal) (reason : ExecuteProposalError)
  | subnetTopUp (user : Principal) (icpAmount : Tokens) (cyclesAdded daysAdded
      newPaidUntilNanos : ℕ)
  | subnetTopUpFailed (user : Principal) (reason : TopUpError)
  | rentalConditionSwitched (user : Principal) (oldConditionId newConditionId : RentalConditionId)
      (cyclesRemaining oldPaidUntilNanos newPaidUntilNanos : ℕ)
  deriving DecidableEq

structure Event where
  timeNanos : ℕ
  event : EventType
  deriving DecidableEq

/-! ### State -/

/-- The tags of `CallerGuard`. -/
inductive Tag
  | request
  | nns
  | agreement
  | refund
  | xrc
  deriving DecidableEq

/-- A lock of `CallerGuard`: a principal and a tag. -/
structure Lock where
  principal : Principal
  tag : Tag
  deriving DecidableEq

/-- Keys of the history: a user, a subnet or `None`, and the event's number under that key. -/
abbrev HistoryKey := Option Principal × ℕ

instance : Ord HistoryKey := lexOrd

instance : TransOrd HistoryKey := inferInstanceAs (TransCmp (compareLex _ _))

structure State where
  rentalConditions : RentalConditionId → Option RentalConditions
  locks : Finset Lock
  rentalRequests : ExtTreeMap Principal RentalRequest
  rentalAgreements : ExtTreeMap Principal RentalAgreement
  eventCounters : ExtTreeMap (Option Principal) ℕ
  history : ExtTreeMap HistoryKey Event
  rates : ExtTreeMap ℕ (ℕ × ℕ)
  /-- `ic_cdk::api::time()`, in nanoseconds. -/
  now : ℕ
  /-- The cycle balance of the canister. -/
  cycles : ℕ
  /-- The part of the balance that can neither be burned nor be attached to a call. -/
  reserve : ℕ
  /-- The calls made to the exchange rate canister so far. -/
  exchangeRateCalls : ℕ

namespace State

/-! ### Locks -/

/-- `CallerGuard::new`: fails without effect when the lock is held. -/
def callerGuard (s : State) (lock : Lock) : Option State :=
  if lock ∈ s.locks then none else some { s with locks := insert lock s.locks }

/-- The `Drop` of the guards of a call. -/
def dropGuards (s : State) (guards : Finset Lock) : State :=
  { s with locks := s.locks \ guards }

/-! ### Maps -/

def getRentalConditions (s : State) (key : RentalConditionId) : Option RentalConditions :=
  s.rentalConditions key

def insertRentalCondition (s : State) (key : RentalConditionId) (value : RentalConditions) :
    State :=
  { s with rentalConditions := Function.update s.rentalConditions key (some value) }

def getRentalRequest (s : State) (user : Principal) : Option RentalRequest :=
  s.rentalRequests[user]?

/-- `update_rental_request`, `none` when the requester has no request. -/
def updateRentalRequest (s : State) (requester : Principal)
    (transform : RentalRequest → RentalRequest) : Option State :=
  match s.rentalRequests[requester]? with
  | none => none
  | some value =>
    some { s with rentalRequests := s.rentalRequests.insert requester (transform value) }

/-- `remove_rental_request`, `none` when there was nothing to remove. -/
def removeRentalRequest (s : State) (requester : Principal) : Option State :=
  match s.rentalRequests[requester]? with
  | none => none
  | some _ => some { s with rentalRequests := s.rentalRequests.erase requester }

/-- `iter_rental_requests`, in the order of the keys. -/
def iterRentalRequests (s : State) : List (Principal × RentalRequest) :=
  s.rentalRequests.toList

def getRentalAgreement (s : State) (subnetId : Principal) : Option RentalAgreement :=
  s.rentalAgreements[subnetId]?

def iterRentalAgreements (s : State) : List (Principal × RentalAgreement) :=
  s.rentalAgreements.toList

/-- `update_rental_agreement`, `none` when the subnet has no agreement. -/
def updateRentalAgreement (s : State) (subnetId : Principal)
    (transform : RentalAgreement → RentalAgreement) : Option State :=
  match s.rentalAgreements[subnetId]? with
  | none => none
  | some value =>
    some { s with rentalAgreements := s.rentalAgreements.insert subnetId (transform value) }

def getCachedRate (s : State) (time : ℕ) : Option (ℕ × ℕ) :=
  s.rates[time]?

def cacheRate (s : State) (time rate decimals : ℕ) : State :=
  { s with rates := s.rates.insert time (rate, decimals) }

/-! ### History -/

/-- `next_seq`: the next unused number under a key, and the state with the counter increased. -/
def nextSeq (s : State) (key : Option Principal) : ℕ × State :=
  let cur := (s.eventCounters[key]?).getD 0
  (cur, { s with eventCounters := s.eventCounters.insert key (wrappingAdd 64 cur 1) })

/-- `get_current_seq`: the largest used number under a key. -/
def getCurrentSeq (s : State) (key : Option Principal) : Option ℕ :=
  match s.eventCounters[key]? with
  | none => none
  | some count => if count = 0 then none else some (count - 1)

def persistEvent (s : State) (event : EventType) (key : Option Principal) : State :=
  let (seq, s) := s.nextSeq key
  { s with history := s.history.insert (key, seq) ⟨s.now, event⟩ }

/-- `get_history_page`: the events under a key numbered in the page below `older_than`, or in the
most recent page, and the number at which the page starts. -/
def getHistoryPage (s : State) (principal : Option Principal) (olderThan : Option ℕ)
    (pageSize : ℕ) : List Event × ℕ :=
  let highSeq := olderThan.getD (((s.getCurrentSeq principal).map (· + 1)).getD 0)
  let lowSeq := highSeq - pageSize
  let page := s.history.toList.filter fun entry ↦
    (compare ((principal, lowSeq) : HistoryKey) entry.1).isLE &&
      (compare entry.1 (principal, highSeq)).isLT
  (page.map Prod.snd, lowSeq)

/-- The page size of the two history endpoints. -/
def historyPageSize : ℕ := 20

/-- The endpoint `get_history_page` for a user or a subnet. -/
def historyPage (s : State) (principal : Principal) (olderThan : Option ℕ) : List Event × ℕ :=
  s.getHistoryPage (some principal) olderThan historyPageSize

/-- `get_rental_conditions_history_page` -/
def rentalConditionsHistoryPage (s : State) (olderThan : Option ℕ) : List Event × ℕ :=
  s.getHistoryPage none olderThan historyPageSize

/-- `persist_rental_request`, `none` when the user already has a request. -/
def persistRentalRequest (s : State) (rentalRequest : RentalRequest) : Option State :=
  match s.rentalRequests[rentalRequest.user]? with
  | some _ => none
  | none =>
    let s := { s with
      rentalRequests := s.rentalRequests.insert rentalRequest.user rentalRequest }
    some (s.persistEvent (.rentalRequestCreated rentalRequest) (some rentalRequest.user))

/-- `persist_rental_agreement`, `none` when the subnet already has an agreement. -/
def persistRentalAgreement (s : State) (rentalAgreement : RentalAgreement) : Option State :=
  match s.rentalAgreements[rentalAgreement.subnetId]? with
  | some _ => none
  | none =>
    let s := { s with
      rentalAgreements := s.rentalAgreements.insert rentalAgreement.subnetId rentalAgreement }
    some (s.persistEvent
      (.rentalAgreementCreated rentalAgreement.user rentalAgreement.rentalRequestProposalId
        rentalAgreement.subnetCreationProposalId rentalAgreement.rentalConditionId)
      (some rentalAgreement.subnetId))

/-! ### Cycles -/

/-- `cycles_burn`: burns up to the amount, as far as the balance above the reserve allows, and
returns what it burned. -/
def cyclesBurn (s : State) (amount : ℕ) : ℕ × State :=
  let burned := min amount (s.cycles - s.reserve)
  (burned, { s with cycles := s.cycles - burned })

/-! ### Projections -/

section Projections

variable (s : State) (event : EventType) (key : Option Principal) (guards : Finset Lock)
  (amount : ℕ)

@[simp] theorem persistEvent_rentalConditions :
    (s.persistEvent event key).rentalConditions = s.rentalConditions := rfl

@[simp] theorem persistEvent_locks : (s.persistEvent event key).locks = s.locks := rfl

@[simp] theorem persistEvent_rentalRequests :
    (s.persistEvent event key).rentalRequests = s.rentalRequests := rfl

@[simp] theorem persistEvent_rentalAgreements :
    (s.persistEvent event key).rentalAgreements = s.rentalAgreements := rfl

@[simp] theorem persistEvent_rates : (s.persistEvent event key).rates = s.rates := rfl

@[simp] theorem persistEvent_now : (s.persistEvent event key).now = s.now := rfl

@[simp] theorem persistEvent_cycles : (s.persistEvent event key).cycles = s.cycles := rfl

@[simp] theorem persistEvent_reserve : (s.persistEvent event key).reserve = s.reserve := rfl

@[simp] theorem persistEvent_exchangeRateCalls :
    (s.persistEvent event key).exchangeRateCalls = s.exchangeRateCalls := rfl

@[simp] theorem cyclesBurn_rentalRequests :
    (s.cyclesBurn amount).2.rentalRequests = s.rentalRequests := rfl

@[simp] theorem cyclesBurn_rentalAgreements :
    (s.cyclesBurn amount).2.rentalAgreements = s.rentalAgreements := rfl

@[simp] theorem dropGuards_rentalConditions :
    (s.dropGuards guards).rentalConditions = s.rentalConditions := rfl

@[simp] theorem dropGuards_locks : (s.dropGuards guards).locks = s.locks \ guards := rfl

@[simp] theorem dropGuards_rentalRequests :
    (s.dropGuards guards).rentalRequests = s.rentalRequests := rfl

@[simp] theorem dropGuards_rentalAgreements :
    (s.dropGuards guards).rentalAgreements = s.rentalAgreements := rfl

@[simp] theorem dropGuards_rates : (s.dropGuards guards).rates = s.rates := rfl

@[simp] theorem dropGuards_now : (s.dropGuards guards).now = s.now := rfl

@[simp] theorem dropGuards_cycles : (s.dropGuards guards).cycles = s.cycles := rfl

@[simp] theorem dropGuards_reserve : (s.dropGuards guards).reserve = s.reserve := rfl

@[simp] theorem dropGuards_exchangeRateCalls :
    (s.dropGuards guards).exchangeRateCalls = s.exchangeRateCalls := rfl

end Projections

end State

end SubnetRental.Canister
