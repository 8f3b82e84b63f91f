import SubnetRental.Lifecycle.Burning
import Mathlib.Tactic.Ring

/-!
# Consistent states

`Consistent` is the invariant over the two maps: every record is stored under its own key and is
well formed, no user has both a request and an agreement, and no user has two agreements. It is
what every segment keeps, given what the frame it resumes knows (`Knows`). `Knows` lists, for every
suspended position, the checks that were made before the await and that the guards of the position
keep true: an executing proposal still finds neither a request nor an agreement of its user, a
creation still finds the request it read and its subnet not rented, a top-up still finds the
agreement it read. A suspended `locking` knows only that the copies of its snapshot are well formed,
because its guards do not cover the snapshot.
-/

set_option autoImplicit false
set_option relaxedAutoImplicit false

namespace SubnetRental.Lifecycle

open Canister Foundation.GuardedCalls Foundation.MachineInteger Foundation.TreeMapTotals Std

/-! ### Well-formed records -/

/-- A request as the canister can store it at a time: between one and ten tenths of the cost are
locked, and a tenth covers the fee of its transfer. -/
structure WellFormedRequest (now : ℕ) (r : RentalRequest) : Prop where
  cost_lt : r.initialCostIcp.e8s < 2 ^ 64
  fee_le : defaultFee ≤ r.tenPercentIcp
  tenths : ∃ k, 1 ≤ k ∧ k ≤ 10 ∧ r.lockedAmountIcp.e8s = k * r.tenPercentIcp.e8s
  created_le : r.creationTimeNanos ≤ r.lastLockingTimeNanos
  locked_le : r.lastLockingTimeNanos ≤ now

/-- An agreement as the canister can store it. -/
structure WellFormedAgreement (a : RentalAgreement) : Prop where
  burned_le : a.totalCyclesBurned ≤ a.totalCyclesCreated
  created_lt : a.totalCyclesCreated < 2 ^ 128
  paidUntil_lt : a.paidUntilNanos < 2 ^ 64

theorem WellFormedRequest.mono {now later : ℕ} {r : RentalRequest} (h : WellFormedRequest now r)
    (hle : now ≤ later) : WellFormedRequest later r :=
  ⟨h.cost_lt, h.fee_le, h.tenths, h.created_le, h.locked_le.trans hle⟩

theorem tenPercentIcp_mul_le (r : RentalRequest) :
    r.tenPercentIcp.e8s * 10 ≤ r.initialCostIcp.e8s := Nat.div_mul_le_self _ _

/-- A request is fully locked exactly when ten tenths are. -/
theorem fullyLocked_iff {now : ℕ} {r : RentalRequest} (h : WellFormedRequest now r) :
    r.FullyLocked ↔ r.tenPercentIcp.e8s * 10 ≤ r.lockedAmountIcp.e8s := by
  have hlt : r.tenPercentIcp.e8s * 10 < 2 ^ 64 :=
    (tenPercentIcp_mul_le r).trans_lt h.cost_lt
  unfold RentalRequest.FullyLocked
  rw [Tokens.le_iff, wrappingMul_of_lt hlt]

@[simp] theorem lockedAmountIcp_afterLocking (r : RentalRequest) (tenPercentIcp : Tokens)
    (nowNanos lockedCycles : ℕ) :
    (r.afterLocking nowNanos tenPercentIcp lockedCycles).lockedAmountIcp.e8s =
      r.lockedAmountIcp.e8s + tenPercentIcp.e8s := rfl

/-- Of a request that is not fully locked, at most nine tenths are. -/
theorem tenths_of_not_fullyLocked {now : ℕ} {r : RentalRequest} (h : WellFormedRequest now r)
    (hnot : ¬ r.FullyLocked) :
    ∃ k, 1 ≤ k ∧ k < 10 ∧ r.lockedAmountIcp.e8s = k * r.tenPercentIcp.e8s := by
  obtain ⟨k, hk₁, -, hk⟩ := h.tenths
  rw [fullyLocked_iff h, hk, Nat.mul_comm k] at hnot
  refine ⟨k, hk₁, ?_, hk⟩
  by_contra hge
  exact hnot (Nat.mul_le_mul_left _ (Nat.le_of_not_lt hge))

theorem lockedAmountIcp_le {now : ℕ} {r : RentalRequest} (h : WellFormedRequest now r) :
    r.lockedAmountIcp.e8s ≤ r.initialCostIcp.e8s := by
  obtain ⟨k, -, hle, hk⟩ := h.tenths
  have hten : k * r.tenPercentIcp.e8s ≤ 10 * r.tenPercentIcp.e8s := Nat.mul_le_mul_right _ hle
  have hcost := tenPercentIcp_mul_le r
  omega

/-- A request that is not fully locked has a whole tenth of its cost left. -/
theorem lockedAmountIcp_add_le {now : ℕ} {r : RentalRequest} (h : WellFormedRequest now r)
    (hnot : ¬ r.FullyLocked) :
    r.lockedAmountIcp.e8s + r.tenPercentIcp.e8s ≤ r.initialCostIcp.e8s := by
  obtain ⟨k, -, hlt, hk⟩ := tenths_of_not_fullyLocked h hnot
  have hsucc : (k + 1) * r.tenPercentIcp.e8s ≤ 10 * r.tenPercentIcp.e8s :=
    Nat.mul_le_mul_right _ hlt
  have htenths := tenPercentIcp_mul_le r
  rw [Nat.succ_mul] at hsucc
  omega

/-- Locking a tenth more of a request that is not fully locked does not overflow. -/
theorem not_lockedIcpOverflows {now : ℕ} {r : RentalRequest} (h : WellFormedRequest now r)
    (hnot : ¬ r.FullyLocked) : r.lockedIcpOverflows r.tenPercentIcp = false := by
  have hsum := lockedAmountIcp_add_le h hnot
  have hcost := h.cost_lt
  unfold RentalRequest.lockedIcpOverflows
  rw [Tokens.add_e8s]
  exact decide_eq_false (by omega)

/-- What `locking` writes back for a due request is well formed. -/
theorem wellFormed_afterLocking {nowNanos now : ℕ} {r : RentalRequest}
    (h : WellFormedRequest nowNanos r) (hnot : ¬ r.FullyLocked) (hnow : nowNanos ≤ now)
    (lockedCycles : ℕ) :
    WellFormedRequest now (r.afterLocking nowNanos r.tenPercentIcp lockedCycles) := by
  obtain ⟨k, hk₁, hlt, hk⟩ := tenths_of_not_fullyLocked h hnot
  refine ⟨h.cost_lt, h.fee_le, ⟨k + 1, Nat.le_add_left 1 k, hlt, ?_⟩,
    h.created_le.trans h.locked_le, hnow⟩
  rw [lockedAmountIcp_afterLocking, hk]
  change _ = (k + 1) * r.tenPercentIcp.e8s
  ring

/-- What a proposal stores is well formed. -/
theorem wellFormed_opened (payload : SubnetRentalProposalPayload) {neededIcp : Tokens}
    (hcost : neededIcp.e8s < 2 ^ 64) (hfee : defaultFee ≤ ⟨neededIcp.e8s / 10⟩)
    (lockedCycles now : ℕ) :
    WellFormedRequest now
      (openedRequest payload neededIcp ⟨neededIcp.e8s / 10⟩ lockedCycles now) :=
  ⟨hcost, hfee, ⟨1, le_rfl, by decide, (Nat.one_mul _).symm⟩, le_rfl, le_rfl⟩

theorem newPaidUntilNanos_lt (paidUntilNanos seconds : ℕ) :
    newPaidUntilNanos paidUntilNanos seconds < 2 ^ 64 := by
  unfold newPaidUntilNanos checkedCast
  dsimp only
  split_ifs with h
  · rwa [Option.getD_some]
  · rw [Option.getD_none]
    exact maxValue_lt 64

/-- Burning at most what remains does not saturate and leaves the agreement well formed. -/
theorem wellFormed_burned {a : RentalAgreement} (h : WellFormedAgreement a) {burned : ℕ}
    (hle : burned ≤ a.cyclesRemaining) :
    (burnedAgreement a burned).totalCyclesBurned = a.totalCyclesBurned + burned ∧
      WellFormedAgreement (burnedAgreement a burned) := by
  have hburned := h.burned_le
  have hcreated := h.created_lt
  have hle' : burned ≤ a.totalCyclesCreated - a.totalCyclesBurned := hle
  have hsum : saturatingAdd 128 a.totalCyclesBurned burned = a.totalCyclesBurned + burned :=
    saturatingAdd_of_lt (by omega)
  refine ⟨hsum, ?_, hcreated, h.paidUntil_lt⟩
  change saturatingAdd 128 a.totalCyclesBurned burned ≤ a.totalCyclesCreated
  omega

theorem wellFormed_toppedUp {a : RentalAgreement} (h : WellFormedAgreement a)
    (dailyCostCycles actualCycles : ℕ) (userIcpBalance : Tokens) :
    WellFormedAgreement (toppedUpAgreement a a dailyCostCycles actualCycles userIcpBalance) := by
  refine ⟨?_, ?_, ?_⟩
  · rw [toppedUpAgreement_totalCyclesCreated]
    exact h.burned_le.trans (le_saturatingAdd h.created_lt)
  · rw [toppedUpAgreement_totalCyclesCreated]
    exact saturatingAdd_lt
  · rw [toppedUpAgreement_paidUntilNanos]
    exact newPaidUntilNanos_lt _ _

/-! ### The invariant -/

/-- The conditions every installation and upgrade sets. -/
def standardConditions : RentalConditionId → RentalConditions
  | .app13CH =>
    { description := swissNodesDescription
      subnetId := none
      dailyCostCycles := 820 * trillion
      initialRentalPeriodDays }
  | .app7CH =>
    { description := swissNodesDescription
      subnetId := none
      dailyCostCycles := 440 * trillion
      initialRentalPeriodDays }

theorem dailyCostCycles_pos (id : RentalConditionId) :
    0 < (standardConditions id).dailyCostCycles := by
  cases id <;> decide

theorem perSecond_pos (id : RentalConditionId) :
    0 < (standardConditions id).dailyCostCycles / secondsPerDay := by
  cases id <;> decide

structure Consistent (s : State) : Prop where
  request_user : ∀ (u : Principal) r, s.rentalRequests[u]? = some r → r.user = u
  agreement_subnet : ∀ (i : Principal) a, s.rentalAgreements[i]? = some a → a.subnetId = i
  exclusive : ∀ (u i : Principal) r a, s.rentalRequests[u]? = some r →
    s.rentalAgreements[i]? = some a → a.user ≠ u
  unique : ∀ (i j : Principal) a b, s.rentalAgreements[i]? = some a →
    s.rentalAgreements[j]? = some b → a.user = b.user → i = j
  request_wellFormed : ∀ (u : Principal) r, s.rentalRequests[u]? = some r →
    WellFormedRequest s.now r
  agreement_wellFormed : ∀ (i : Principal) a, s.rentalAgreements[i]? = some a →
    WellFormedAgreement a
  conditions : ∀ id, s.rentalConditions id = some (standardConditions id)
  now_lt : s.now < 2 ^ 64

/-- The user has neither a request nor an agreement. -/
def NoRental (user : Principal) (s : State) : Prop :=
  s.rentalRequests[user]? = none ∧
    ∀ (i : Principal) a, s.rentalAgreements[i]? = some a → a.user ≠ user

/-- The agreement that `execute_create_rental_agreement_` prepares for a request. -/
def grantedAgreement (payload : CreateRentalAgreementPayload) (rentalRequest : RentalRequest)
    (initialRentalPeriodNanos convertedCycles nowNanos : ℕ) : RentalAgreement where
  user := payload.user
  subnetId := payload.subnetId
  rentalRequestProposalId := rentalRequest.initialProposalId
  subnetCreationProposalId := some payload.proposalId
  rentalConditionId := rentalRequest.rentalConditionId
  creationTimeNanos := nowNanos
  paidUntilNanos := wrappingAdd 64 nowNanos initialRentalPeriodNanos
  totalIcpPaid := rentalRequest.initialCostIcp
  totalCyclesCreated := saturatingAdd 128 convertedCycles rentalRequest.lockedAmountCycles
  totalCyclesBurned := 0

/-- The initial rental period in nanoseconds. -/
def initialRentalPeriodNanos (conditions : RentalConditions) : ℕ :=
  wrappingMul 64 (wrappingMul 64 conditions.initialRentalPeriodDays secondsPerDay) billion

/-- What a suspended position knows about the state, because it was checked before the await and is
protected by the guards of the position. -/
def Knows : Frame → State → Prop
  | .rentalRequestRate payload conditions _, s =>
    NoRental payload.user s ∧ s.rentalConditions payload.rentalConditionId = some conditions
  | .rentalRequestBalance payload neededIcp, s =>
    NoRental payload.user s ∧ neededIcp.e8s < 2 ^ 64
  | .rentalRequestConvert payload neededIcp lockAmountIcp _, s =>
    NoRental payload.user s ∧ neededIcp.e8s < 2 ^ 64 ∧ lockAmountIcp = ⟨neededIcp.e8s / 10⟩ ∧
      defaultFee ≤ lockAmountIcp
  | .createConvert payload rentalRequest period remainingIcp _, s =>
    s.rentalRequests[payload.user]? = some rentalRequest ∧
      s.rentalAgreements[payload.subnetId]? = none ∧
      (∃ conditions, s.rentalConditions rentalRequest.rentalConditionId = some conditions ∧
        period = initialRentalPeriodNanos conditions) ∧
      remainingIcp = rentalRequest.initialCostIcp - rentalRequest.lockedAmountIcp ∧
      defaultFee ≤ remainingIcp
  | .createAuthorize payload rentalRequest rentalAgreement, s =>
    s.rentalRequests[payload.user]? = some rentalRequest ∧
      s.rentalAgreements[payload.subnetId]? = none ∧
      ∃ conditions convertedCycles nowNanos,
        s.rentalConditions rentalRequest.rentalConditionId = some conditions ∧ nowNanos ≤ s.now ∧
        rentalAgreement = grantedAgreement payload rentalRequest
          (initialRentalPeriodNanos conditions) convertedCycles nowNanos
  | .topUpBalance subnetId rentalAgreement, s =>
    s.rentalAgreements[subnetId]? = some rentalAgreement
  | .topUpConvert subnetId rentalAgreement userIcpBalance icpAmountForCycles _, s =>
    s.rentalAgreements[subnetId]? = some rentalAgreement ∧
      defaultFee ≤ userIcpBalance ∧ icpAmountForCycles = userIcpBalance - defaultFee ∧
      defaultFee ≤ icpAmountForCycles
  | .lockingConvert nowNanos rentalRequest tenPercentIcp rest _, s =>
    nowNanos ≤ s.now ∧ WellFormedRequest nowNanos rentalRequest ∧ rentalRequest.Due nowNanos ∧
      tenPercentIcp = rentalRequest.tenPercentIcp ∧ (∀ r ∈ rest, WellFormedRequest nowNanos r) ∧
      ((rentalRequest :: rest).map RentalRequest.user).Nodup
  | _, _ => True

theorem wellFormed_granted (payload : CreateRentalAgreementPayload) (rentalRequest : RentalRequest)
    (period convertedCycles nowNanos : ℕ) :
    WellFormedAgreement
      (grantedAgreement payload rentalRequest period convertedCycles nowNanos) :=
  ⟨Nat.zero_le _, saturatingAdd_lt, Nat.mod_lt _ (Nat.two_pow_pos 64)⟩

/-! ### Preservation -/

theorem SameSetting.conditions {s s' : State} (h : SameSetting s s')
    (hs : ∀ id, s.rentalConditions id = some (standardConditions id)) (id : RentalConditionId) :
    s'.rentalConditions id = some (standardConditions id) := by
  rw [h.rentalConditions, hs]

/-- Maps, conditions and time are all that consistency depends on. -/
theorem Consistent.of_quiet {s s' : State} (hs : Consistent s) (h : Quiet s s') :
    Consistent s' := by
  have hnow := h.now
  refine ⟨?_, ?_, ?_, ?_, ?_, ?_, h.conditions hs.conditions, hnow ▸ hs.now_lt⟩
  · exact h.rentalRequests ▸ hs.request_user
  · exact h.rentalAgreements ▸ hs.agreement_subnet
  · exact h.rentalRequests ▸ h.rentalAgreements ▸ hs.exclusive
  · exact h.rentalAgreements ▸ hs.unique
  · exact h.rentalRequests ▸ hnow ▸ hs.request_wellFormed
  · exact h.rentalAgreements ▸ hs.agreement_wellFormed

/-- Storing a well-formed request of a user without agreement. -/
theorem Consistent.insert_request {s s' : State} (hs : Consistent s) {r : RentalRequest}
    {burned : ℕ}
    (h : Writes s s' (s.rentalRequests.insert r.user r) s.rentalAgreements burned)
    (hwell : WellFormedRequest s.now r)
    (hnone : ∀ (i : Principal) a, s.rentalAgreements[i]? = some a → a.user ≠ r.user) :
    Consistent s' := by
  have hlookup (u : Principal) (q : RentalRequest) (hq : s'.rentalRequests[u]? = some q) :
      (u = r.user ∧ q = r) ∨ s.rentalRequests[u]? = some q := by
    rw [h.rentalRequests] at hq
    obtain ⟨rfl, rfl⟩ | ⟨-, hold⟩ := getElem?_insert_eq_some_iff.mp hq
    · exact .inl ⟨rfl, rfl⟩
    · exact .inr hold
  refine ⟨?_, ?_, ?_, ?_, ?_, ?_, h.conditions hs.conditions, h.now ▸ hs.now_lt⟩
  · intro u q hq
    obtain ⟨rfl, rfl⟩ | hold := hlookup u q hq
    · rfl
    · exact hs.request_user u q hold
  · exact h.rentalAgreements ▸ hs.agreement_subnet
  · intro u i q a hq ha
    rw [h.rentalAgreements] at ha
    obtain ⟨rfl, rfl⟩ | hold := hlookup u q hq
    · exact hnone i a ha
    · exact hs.exclusive u i q a hold ha
  · exact h.rentalAgreements ▸ hs.unique
  · intro u q hq
    rw [h.now]
    obtain ⟨rfl, rfl⟩ | hold := hlookup u q hq
    · exact hwell
    · exact hs.request_wellFormed u q hold
  · exact h.rentalAgreements ▸ hs.agreement_wellFormed

theorem Consistent.erase_request {s s' : State} (hs : Consistent s) {user : Principal}
    {burned : ℕ} (h : Writes s s' (s.rentalRequests.erase user) s.rentalAgreements burned) :
    Consistent s' := by
  have hlookup (u : Principal) (q : RentalRequest) (hq : s'.rentalRequests[u]? = some q) :
      s.rentalRequests[u]? = some q := by
    rw [h.rentalRequests] at hq
    exact (getElem?_erase_eq_some_iff.mp hq).2
  refine ⟨?_, ?_, ?_, ?_, ?_, ?_, h.conditions hs.conditions, h.now ▸ hs.now_lt⟩
  · exact fun u q hq ↦ hs.request_user u q (hlookup u q hq)
  · exact h.rentalAgreements ▸ hs.agreement_subnet
  · exact fun u i q a hq ha ↦ hs.exclusive u i q a (hlookup u q hq) (h.rentalAgreements ▸ ha)
  · exact h.rentalAgreements ▸ hs.unique
  · exact fun u q hq ↦ h.now ▸ hs.request_wellFormed u q (hlookup u q hq)
  · exact h.rentalAgreements ▸ hs.agreement_wellFormed

/-- Turning the request of a user into an agreement of that user. -/
theorem Consistent.grant {s s' : State} (hs : Consistent s) {user : Principal}
    {stored : RentalRequest} {a : RentalAgreement} {burned : ℕ}
    (hstored : s.rentalRequests[user]? = some stored)
    (h : Writes s s' (s.rentalRequests.erase user) (s.rentalAgreements.insert a.subnetId a)
      burned)
    (huser : a.user = user) (hwell : WellFormedAgreement a) : Consistent s' := by
  have hrequest (u : Principal) (q : RentalRequest) (hq : s'.rentalRequests[u]? = some q) :
      u ≠ user ∧ s.rentalRequests[u]? = some q := by
    rw [h.rentalRequests] at hq
    obtain ⟨hne, hold⟩ := getElem?_erase_eq_some_iff.mp hq
    exact ⟨hne.symm, hold⟩
  have hagreement (i : Principal) (b : RentalAgreement) (hb : s'.rentalAgreements[i]? = some b) :
      (i = a.subnetId ∧ b = a) ∨ s.rentalAgreements[i]? = some b := by
    rw [h.rentalAgreements] at hb
    obtain ⟨rfl, rfl⟩ | ⟨-, hold⟩ := getElem?_insert_eq_some_iff.mp hb
    · exact .inl ⟨rfl, rfl⟩
    · exact .inr hold
  -- the user had a request, so every agreement stored before is somebody else's
  have hother (i : Principal) (b : RentalAgreement) (hb : s.rentalAgreements[i]? = some b) :
      b.user ≠ user := hs.exclusive user i stored b hstored hb
  refine ⟨?_, ?_, ?_, ?_, ?_, ?_, h.conditions hs.conditions, h.now ▸ hs.now_lt⟩
  · exact fun u q hq ↦ hs.request_user u q (hrequest u q hq).2
  · intro i b hb
    obtain ⟨rfl, rfl⟩ | hold := hagreement i b hb
    · rfl
    · exact hs.agreement_subnet i b hold
  · intro u i q b hq hb
    obtain ⟨hu, hq⟩ := hrequest u q hq
    obtain ⟨rfl, rfl⟩ | hold := hagreement i b hb
    · exact fun heq ↦ hu (heq.symm.trans huser)
    · exact hs.exclusive u i q b hq hold
  · intro i j b d hb hd hbd
    obtain ⟨rfl, rfl⟩ | hb := hagreement i b hb
    · obtain ⟨rfl, rfl⟩ | hd := hagreement j d hd
      · rfl
      · exact absurd (hbd.symm.trans huser) (hother j d hd)
    · obtain ⟨rfl, rfl⟩ | hd := hagreement j d hd
      · exact absurd (hbd.trans huser) (hother i b hb)
      · exact hs.unique i j b d hb hd hbd
  · exact fun u q hq ↦ h.now ▸ hs.request_wellFormed u q (hrequest u q hq).2
  · intro i b hb
    obtain ⟨rfl, rfl⟩ | hold := hagreement i b hb
    · exact hwell
    · exact hs.agreement_wellFormed i b hold

/-- Changing agreements without changing whose they are. -/
theorem Consistent.rewrite_agreements {s s' : State} (hs : Consistent s)
    (hsetting : ∀ id, s'.rentalConditions id = some (standardConditions id))
    (hnow : s'.now = s.now) (hrequests : s'.rentalRequests = s.rentalRequests)
    (hagreements : ∀ (i : Principal) a, s'.rentalAgreements[i]? = some a →
      WellFormedAgreement a ∧ ∃ old, s.rentalAgreements[i]? = some old ∧ a.user = old.user ∧
        a.subnetId = old.subnetId) : Consistent s' := by
  refine ⟨hrequests ▸ hs.request_user, ?_, ?_, ?_, hrequests ▸ hnow ▸ hs.request_wellFormed,
    fun i a ha ↦ (hagreements i a ha).1, hsetting, hnow ▸ hs.now_lt⟩
  · intro i a ha
    obtain ⟨-, old, hold, -, hsubnet⟩ := hagreements i a ha
    exact hsubnet.trans (hs.agreement_subnet i old hold)
  · intro u i r a hr ha
    obtain ⟨-, old, hold, huser, -⟩ := hagreements i a ha
    exact huser ▸ hs.exclusive u i r old (hrequests ▸ hr) hold
  · intro i j a b ha hb hab
    obtain ⟨-, old, hold, huser, -⟩ := hagreements i a ha
    obtain ⟨-, old', hold', huser', -⟩ := hagreements j b hb
    exact hs.unique i j old old' hold hold' (huser ▸ huser' ▸ hab)

/-- Every resumed segment keeps a state consistent, given what its frame knows. -/
theorem Consistent.of_effect {s s' : State} {frame : Frame} {answer : Answer} (hs : Consistent s)
    (hknows : Knows frame s) (h : Effect s s' frame answer) : Consistent s' := by
  cases h with
  | quiet frame answer h => exact hs.of_quiet h
  | opened payload neededIcp lockAmountIcp blockIndex lockedCycles hnone h =>
    obtain ⟨⟨-, hnone⟩, hcost, rfl, hfee⟩ := hknows
    exact hs.insert_request h (wellFormed_opened payload hcost hfee lockedCycles s.now) hnone
  | locked nowNanos r stored tenPercentIcp rest blockIndex lockedCycles hstored h =>
    obtain ⟨hnow, hwell, hdue, rfl, -⟩ := hknows
    refine hs.insert_request h (wellFormed_afterLocking hwell hdue.2 hnow lockedCycles) ?_
    exact fun i a ha ↦ hs.exclusive r.user i stored a hstored ha
  | cancelled caller toBeRefunded blockId r hstored h => exact hs.erase_request h
  | granted payload r stored a answer hanswer hstored hfree h =>
    obtain ⟨-, -, conditions, convertedCycles, nowNanos, -, -, rfl⟩ := hknows
    exact hs.grant hstored h rfl (wellFormed_granted _ _ _ _ _)
  | toppedUp subnetId a stored userIcpBalance icpAmount blockIndex actualCycles conditions
      hconditions hstored h =>
    obtain ⟨hcopy, -⟩ := hknows
    obtain rfl : a = stored := Option.some.inj (hcopy.symm.trans hstored)
    refine hs.rewrite_agreements (h.conditions hs.conditions) h.now h.rentalRequests
      fun i b hb ↦ ?_
    rw [h.rentalAgreements] at hb
    obtain ⟨rfl, rfl⟩ | ⟨-, hb⟩ := getElem?_insert_eq_some_iff.mp hb
    · exact ⟨wellFormed_toppedUp (hs.agreement_wellFormed _ a hstored) _ _ _, a, hstored, rfl, rfl⟩
    · exact ⟨hs.agreement_wellFormed i b hb, b, hb, rfl, rfl⟩

/-- One step of the burn pass keeps a state consistent. -/
theorem Consistent.of_burnStep {s s' : State} {subnetId : Principal}
    {burned : List (Principal × ℕ)} (hs : Consistent s) (h : BurnStep s subnetId burned s') :
    Consistent s' := by
  cases h with
  | skip => exact hs
  | burn a burned hfree hstored hsome hdivisible hburned =>
    have hle : burned ≤ a.cyclesRemaining :=
      hburned ▸ (min_le_left _ _).trans (burnAmount_le s.now a)
    refine hs.rewrite_agreements hs.conditions rfl rfl fun i b hb ↦ ?_
    obtain ⟨rfl, rfl⟩ | ⟨-, hold⟩ := getElem?_insert_eq_some_iff.mp hb
    · exact ⟨(wellFormed_burned (hs.agreement_wellFormed _ a hstored) hle).2, a, hstored, rfl, rfl⟩
    · exact ⟨hs.agreement_wellFormed i b hold, b, hold, rfl, rfl⟩

/-- A burn pass keeps a state consistent. -/
theorem Consistent.of_burnPass {s s' : State} {burned : List (Principal × ℕ)} (hs : Consistent s)
    (h : burnPass s = .ok (burned, s')) : Consistent s' :=
  burnPass_induct (J := fun _ t ↦ Consistent t) (fun _ _ _ _ _ ht hstep ↦ ht.of_burnStep hstep) h
    hs

/-! ### Installation, upgrades and time -/

theorem setInitialConditions_rentalConditions (s : State) (id : RentalConditionId) :
    (setInitialConditions s).rentalConditions id = some (standardConditions id) := by
  cases id <;> rfl

theorem consistent_install (cycles now reserve : ℕ) (hnow : now < 2 ^ 64) :
    Consistent (install cycles now reserve) := by
  have hrequests (u : Principal) :
      (install cycles now reserve).rentalRequests[u]? = none := ExtTreeMap.getElem?_empty
  have hagreements (i : Principal) :
      (install cycles now reserve).rentalAgreements[i]? = none := ExtTreeMap.getElem?_empty
  refine ⟨?_, ?_, ?_, ?_, ?_, ?_, setInitialConditions_rentalConditions _, hnow⟩ <;>
    simp [hrequests, hagreements]

theorem reprice_lt (cyclesRemaining dailyCostCycles now : ℕ) :
    reprice cyclesRemaining dailyCostCycles now < 2 ^ 64 := by
  unfold reprice
  dsimp only
  split_ifs
  · exact maxValue_lt 64
  · split
    · exact maxValue_lt 64
    · exact saturatingAdd_lt

/-- The agreement the migration writes. -/
def repricedAgreement (now : ℕ) (a : RentalAgreement) : RentalAgreement :=
  { a with
    rentalConditionId := .app7CH
    paidUntilNanos :=
      reprice a.cyclesRemaining (standardConditions .app7CH).dailyCostCycles now }

@[simp] theorem repricedAgreement_paidUntilNanos (now : ℕ) (a : RentalAgreement) :
    (repricedAgreement now a).paidUntilNanos =
      reprice a.cyclesRemaining (standardConditions .app7CH).dailyCostCycles now := rfl

theorem wellFormed_repriced {a : RentalAgreement} (h : WellFormedAgreement a) (now : ℕ) :
    WellFormedAgreement (repricedAgreement now a) := by
  refine ⟨h.burned_le, h.created_lt, ?_⟩
  rw [repricedAgreement_paidUntilNanos]
  exact reprice_lt _ _ _

/-- What an upgrade does: the conditions are set again, the locks are gone, and at most the
agreement of the target subnet gets another condition and deadline. -/
structure Upgraded (s s' : State) : Prop where
  conditions : ∀ id, s'.rentalConditions id = some (standardConditions id)
  locks : s'.locks = ∅
  rentalRequests : s'.rentalRequests = s.rentalRequests
  now : s'.now = s.now
  cycles : s'.cycles = s.cycles
  reserve : s'.reserve = s.reserve
  exchangeRateCalls : s'.exchangeRateCalls = s.exchangeRateCalls
  agreements : s'.rentalAgreements = s.rentalAgreements ∨
    ∃ a, s.rentalAgreements[targetSubnet]? = some a ∧ a.rentalConditionId = .app13CH ∧
      s'.rentalAgreements =
        s.rentalAgreements.insert targetSubnet (repricedAgreement s.now a)

/-- The state of an upgrade before the migration. -/
def beforeMigration (s : State) : State :=
  setInitialConditions { s with rentalConditions := fun _ ↦ none, locks := ∅ }

/-- The migration finds no agreement to move, or it moves the agreement of the target subnet and
records that. -/
theorem postUpgrade_cases (s : State) :
    ((∀ a, s.rentalAgreements[targetSubnet]? = some a → a.rentalConditionId ≠ .app13CH) ∧
      postUpgrade s = beforeMigration s) ∨
    ∃ a, s.rentalAgreements[targetSubnet]? = some a ∧ a.rentalConditionId = .app13CH ∧
      postUpgrade s = State.persistEvent
        { beforeMigration s with
          rentalAgreements :=
            s.rentalAgreements.insert targetSubnet (repricedAgreement s.now a) }
        (.rentalConditionSwitched a.user .app13CH .app7CH a.cyclesRemaining a.paidUntilNanos
          (repricedAgreement s.now a).paidUntilNanos) (some targetSubnet) := by
  have hconditions := setInitialConditions_rentalConditions
    { s with rentalConditions := fun _ ↦ none, locks := ∅ }
  have hagreements : (beforeMigration s).rentalAgreements = s.rentalAgreements := rfl
  change (_ ∧ app13chToApp7ch (beforeMigration s) = _) ∨ ∃ a, _ ∧ _ ∧
    app13chToApp7ch (beforeMigration s) = _
  unfold app13chToApp7ch State.getRentalAgreement State.updateRentalAgreement
  rw [hagreements]
  cases hstored : s.rentalAgreements[targetSubnet]? with
  | none => exact .inl ⟨fun _ ha ↦ (by cases ha), rfl⟩
  | some a =>
    by_cases hcondition : a.rentalConditionId = .app13CH
    · have hnew : (beforeMigration s).getRentalConditions .app7CH =
          some (standardConditions .app7CH) := hconditions .app7CH
      refine .inr ⟨a, rfl, hcondition, ?_⟩
      simp only [hcondition, ne_eq, not_true_eq_false, if_false, hnew]
      rfl
    · refine .inl ⟨fun b hb ↦ ?_, ?_⟩
      · obtain rfl := Option.some.inj hb
        exact hcondition
      · simp only [ne_eq, hcondition, not_false_eq_true, if_true]

theorem upgraded_postUpgrade (s : State) : Upgraded s (postUpgrade s) := by
  have hconditions := setInitialConditions_rentalConditions
    { s with rentalConditions := fun _ ↦ none, locks := ∅ }
  obtain ⟨-, heq⟩ | ⟨a, hstored, hcondition, heq⟩ := postUpgrade_cases s
  · rw [heq]
    exact ⟨hconditions, rfl, rfl, rfl, rfl, rfl, rfl, .inl rfl⟩
  · rw [heq]
    exact ⟨hconditions, rfl, rfl, rfl, rfl, rfl, rfl, .inr ⟨a, hstored, hcondition, rfl⟩⟩

theorem Consistent.of_upgraded {s s' : State} (hs : Consistent s) (h : Upgraded s s') :
    Consistent s' := by
  refine hs.rewrite_agreements h.conditions h.now h.rentalRequests fun i b hb ↦ ?_
  obtain heq | ⟨a, hstored, -, heq⟩ := h.agreements
  · rw [heq] at hb
    exact ⟨hs.agreement_wellFormed i b hb, b, hb, rfl, rfl⟩
  · rw [heq] at hb
    obtain ⟨rfl, rfl⟩ | ⟨-, hb⟩ := getElem?_insert_eq_some_iff.mp hb
    · exact ⟨wellFormed_repriced (hs.agreement_wellFormed _ a hstored) s.now, a, hstored, rfl,
        rfl⟩
    · exact ⟨hs.agreement_wellFormed i b hb, b, hb, rfl, rfl⟩

/-- Time, the balance and the reserve may change between segments. -/
theorem Consistent.of_maps {s s' : State} (hs : Consistent s)
    (hconditions : s'.rentalConditions = s.rentalConditions)
    (hrequests : s'.rentalRequests = s.rentalRequests)
    (hagreements : s'.rentalAgreements = s.rentalAgreements) (hle : s.now ≤ s'.now)
    (hlt : s'.now < 2 ^ 64) : Consistent s' :=
  ⟨hrequests ▸ hs.request_user, hagreements ▸ hs.agreement_subnet,
    hrequests ▸ hagreements ▸ hs.exclusive, hagreements ▸ hs.unique,
    hrequests ▸ fun u r hr ↦ (hs.request_wellFormed u r hr).mono hle,
    hagreements ▸ hs.agreement_wellFormed, hconditions ▸ hs.conditions, hlt⟩

end SubnetRental.Lifecycle
