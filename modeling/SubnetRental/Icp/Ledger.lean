import SubnetRental.Lifecycle.Discipline

/-!
# The ICP of a user

The canister debits a user's subaccount by conversions and refunds only. What leaves the subaccount
is counted by `World.debited`, and `balance_add_debited_mono` says that nothing leaves it otherwise.
`truthful` are the answers of a ledger that accepts exactly the transfers that the subaccount
covers, fee included, and tells the balance; `successful` are those of a CMC that accepts every
call.
-/

set_option autoImplicit false
set_option relaxedAutoImplicit false

namespace SubnetRental.Icp

open Canister Lifecycle Foundation.GuardedCalls Foundation.MachineInteger
open Foundation.TransitionSystem Std

/-! ### Answers of the ledger and of the CMC -/

/-- The subaccount of a user holds an amount and the fee. -/
def Covers (w : World) (user : Principal) (amount : Tokens) : Prop :=
  amount.e8s + defaultFee.e8s ≤ w.balance user

instance (w : World) (user : Principal) (amount : Tokens) : Decidable (Covers w user amount) :=
  inferInstanceAs (Decidable (_ ≤ _))

/-- The ledger answers a transfer with `Ok` exactly when it is covered. -/
def transferTruthful (w : World) (user : Principal) (amount : Tokens) : Answer → Bool
  | .transfer (.ok _) => Covers w user amount
  | .transfer (.error _) => ¬ Covers w user amount
  | _ => false

/-- The ledger tells the balance and accepts exactly the covered transfers. -/
def truthful (w : World) : OutgoingCall → Answer → Bool
  | .accountBalance user, .accountBalance balance => balance.e8s = w.balance user
  | .accountBalance _, _ => false
  | .transferToCmc amount source, answer => transferTruthful w source amount answer
  | .refundUser user amount, answer => transferTruthful w user amount answer
  | _, _ => true

/-- The CMC accepts every call. -/
def successful : OutgoingCall → Answer → Bool
  | .notifyTopUp _, .notifyTopUp (.ok _) => true
  | .notifyTopUp _, _ => false
  | .setAuthorizedSubnetworkList _ _, .callFailed _ => false
  | _, _ => true

/-! ### Debits -/

/-- What an answer takes from the subaccount of a user. -/
def debitOf (user : Principal) : OutgoingCall → Answer → ℕ
  | .transferToCmc amount source, .transfer (.ok _) =>
    if source = user then amount.e8s + defaultFee.e8s else 0
  | .refundUser source amount, .transfer (.ok _) =>
    if source = user then amount.e8s + defaultFee.e8s else 0
  | _, _ => 0

theorem debit_debited (w : World) (source user : Principal) (amount : Tokens) :
    (w.debit source amount).debited user =
      w.debited user + if source = user then amount.e8s + defaultFee.e8s else 0 := by
  change Function.update w.debited source _ user = _
  by_cases h : source = user
  · subst h
    rw [Function.update_self, if_pos rfl]
  · rw [Function.update_of_ne (Ne.symm h), if_neg h, Nat.add_zero]

theorem debit_balance (w : World) (source user : Principal) (amount : Tokens) :
    (w.debit source amount).balance user =
      w.balance user - if source = user then amount.e8s + defaultFee.e8s else 0 := by
  change Function.update w.balance source _ user = _
  by_cases h : source = user
  · subst h
    rw [Function.update_self, if_pos rfl]
  · rw [Function.update_of_ne (Ne.symm h), if_neg h, Nat.sub_zero]

/-- An answer debits what it takes. -/
theorem answer_debited (w : World) (user : Principal) (call : OutgoingCall) (answer : Answer) :
    (w.answer call answer).debited user = w.debited user + debitOf user call answer ∧
      (w.answer call answer).balance user = w.balance user - debitOf user call answer := by
  have htransfer (source : Principal) (amount : Tokens) :
      (w.debit source amount).debited user =
          w.debited user + (if source = user then amount.e8s + defaultFee.e8s else 0) ∧
        (w.debit source amount).balance user =
          w.balance user - if source = user then amount.e8s + defaultFee.e8s else 0 :=
    ⟨debit_debited w source user amount, debit_balance w source user amount⟩
  cases call with
  | transferToCmc amount source =>
    cases answer with
    | transfer result =>
      cases result with
      | ok blockIndex => exact htransfer source amount
      | error e => exact ⟨rfl, rfl⟩
    | _ => exact ⟨rfl, rfl⟩
  | refundUser source amount =>
    cases answer with
    | transfer result =>
      cases result with
      | ok blockIndex => exact htransfer source amount
      | error e => exact ⟨rfl, rfl⟩
    | _ => exact ⟨rfl, rfl⟩
  | notifyTopUp blockIndex =>
    cases answer with
    | notifyTopUp result => cases result <;> exact ⟨rfl, rfl⟩
    | _ => exact ⟨rfl, rfl⟩
  | setAuthorizedSubnetworkList who subnets => cases answer <;> exact ⟨rfl, rfl⟩
  | _ => exact ⟨rfl, rfl⟩

/-- Steps other than answers and payments leave balances and debits as they are. -/
theorem ledger_of_step {cycles : ℕ} {c c' : Configuration} {a : Label}
    (hnext : (system cycles).next c a = some c') (user : Principal) :
    (∃ id operation frame answer, a = .serve id answer ∧
        c.calls[id]? = some ⟨operation, frame, none⟩ ∧
        c'.state.debited user = c.state.debited user + debitOf user frame.outgoing answer ∧
        c'.state.balance user = c.state.balance user - debitOf user frame.outgoing answer) ∨
      (∀ id answer, a ≠ .serve id answer) ∧ c'.state.debited user = c.state.debited user ∧
        c.state.balance user ≤ c'.state.balance user := by
  cases Service.step_of_next hnext with
  | startTrap | resumeTrap => exact .inr ⟨nofun, rfl, le_rfl⟩
  | startSuspend operation state frame h =>
    obtain ⟨s', hsegment, rfl⟩ := Outcome.mapState_eq_suspend h
    exact .inr ⟨nofun, rfl, le_rfl⟩
  | startReply operation state response h =>
    obtain ⟨s', hsegment, rfl⟩ := Outcome.mapState_eq_reply h
    exact .inr ⟨nofun, rfl, le_rfl⟩
  | serve id operation frame answer hcall =>
    obtain ⟨hdebited, hbalance⟩ := answer_debited c.state user frame.outgoing answer
    exact .inl ⟨id, operation, frame, answer, rfl, hcall, hdebited, hbalance⟩
  | resumeSuspend id operation frame answer state frame' hcall h =>
    obtain ⟨s', hsegment, rfl⟩ := Outcome.mapState_eq_suspend h
    exact .inr ⟨nofun, rfl, le_rfl⟩
  | resumeReply id operation frame answer state response hcall h =>
    obtain ⟨s', hsegment, rfl⟩ := Outcome.mapState_eq_reply h
    exact .inr ⟨nofun, rfl, le_rfl⟩
  | environment event state h =>
    cases environmentStep_of_environment h with
    | passed | received | reserved | upgraded => exact .inr ⟨nofun, rfl, le_rfl⟩
    | paid payer amount =>
      refine .inr ⟨nofun, rfl, ?_⟩
      change _ ≤ Function.update c.state.balance payer (c.state.balance payer + amount.e8s) user
      by_cases hpayer : user = payer
      · subst hpayer
        rw [Function.update_self]
        exact Nat.le_add_right _ _
      · rw [Function.update_of_ne hpayer]

/-- Nothing leaves a subaccount that is not counted as debited. -/
theorem balance_add_debited_mono {cycles : ℕ} {allowed : Configuration → Label → Prop}
    {c c' : Configuration} (hrun : (system cycles).RunWithin allowed c c') (user : Principal) :
    c.state.balance user + c.state.debited user ≤
      c'.state.balance user + c'.state.debited user := by
  refine hrun.induct (J := fun d ↦ c.state.balance user + c.state.debited user ≤
    d.state.balance user + d.state.debited user) le_rfl ?_
  intro u v a _ ih _ hnext
  obtain ⟨_, _, _, _, -, -, hdebited, hbalance⟩ | ⟨-, hdebited, hbalance⟩ :=
    ledger_of_step hnext user
  · omega
  · omega

end SubnetRental.Icp
