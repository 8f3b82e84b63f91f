import SubnetRental.Lifecycle.Unwraps

/-!
# The exclusive lifecycle of a rental

A user has at most one rental at a time: an open request or one agreement. `exclusive_lifecycle`
collects what follows in every interleaving of all operations, traps and upgrades included: the
keys of both maps are those of the stored records, requests and agreements exclude each other, the
unwraps that rely on checks before an await never fail, and the list of subnets that
`set_authorized_subnetwork_list` overwrites never contains a subnet rented here.
-/

set_option autoImplicit false
set_option relaxedAutoImplicit false

namespace SubnetRental.Lifecycle

open Canister Foundation.GuardedCalls Foundation.TransitionSystem Std

/-- No user has two rentals, and every rental is where its key says. -/
structure ExclusiveRentals (s : State) : Prop where
  request_user : ∀ (u : Principal) r, s.rentalRequests[u]? = some r → r.user = u
  agreement_subnet : ∀ (i : Principal) a, s.rentalAgreements[i]? = some a → a.subnetId = i
  exclusive : ∀ (u i : Principal) r a, s.rentalRequests[u]? = some r →
    s.rentalAgreements[i]? = some a → a.user ≠ u
  unique : ∀ (i j : Principal) a b, s.rentalAgreements[i]? = some a →
    s.rentalAgreements[j]? = some b → a.user = b.user → i = j

theorem Consistent.exclusiveRentals {s : State} (hs : Consistent s) : ExclusiveRentals s :=
  ⟨hs.request_user, hs.agreement_subnet, hs.exclusive, hs.unique⟩

/-- The exclusive lifecycle, in every interleaving of all operations. -/
theorem exclusive_lifecycle {cycles : ℕ} {c : Configuration} (h : (system cycles).Reachable c) :
    ExclusiveRentals c.state.canister ∧
      (∀ operation reason, (operation, .error reason) ∈ c.trace →
        reason ≠ .persistRentalRequest ∧ reason ≠ .removeRentalRequest ∧
          reason ≠ .persistRentalAgreement ∧ reason ≠ .updateRentalAgreement) ∧
      (∀ (id : ℕ) call payload r a, c.calls[id]? = some call →
        call.frame = .createAuthorize payload r a →
          ∀ (i : Principal) b, c.state.canister.rentalAgreements[i]? = some b →
            b.user ≠ payload.user) ∧
      ∀ (i : Principal) b, c.state.canister.rentalAgreements[i]? = some b →
        i ∈ c.state.authorizedSubnets b.user := by
  have hsound := sound_of_reachable h
  refine ⟨hsound.inv.consistent.exclusiveRentals, external_of_reachable h, ?_,
    hsound.inv.authorized⟩
  intro id call payload r a hcall hframe i b hb
  have hknows := (hsound.assert id call hcall).knows
  rw [hframe] at hknows
  exact hsound.inv.consistent.exclusive payload.user i r b hknows.1 hb

/-! ### A run from proposal to agreement -/

/-- The labels of a call that is answered at once each time it awaits. -/
def undisturbed (operation : Operation) (id : ℕ) (answers : List Answer) : List Label :=
  .start operation :: answers.flatMap fun answer ↦ [.serve id answer, .resume id]

/-- A world right after an installation at the start of the second day. -/
def installedWorld (cycles : ℕ) (balance : Principal → ℕ) : World where
  canister := install cycles (86_400 * billion) 0
  balance
  debited _ := 0
  authorizedSubnets _ := []

/-- A world without suspended calls. -/
def idle (w : World) : Configuration := ⟨w, ∅, 0, []⟩

theorem init_idle (cycles : ℕ) (balance : Principal → ℕ) :
    (system cycles).init (idle (installedWorld cycles balance)) :=
  ⟨⟨86_400 * billion, 0, by decide, rfl⟩, rfl, rfl, rfl⟩

def aliceProposal : SubnetRentalProposalPayload where
  user := ⟨[1], by decide⟩
  rentalConditionId := .app13CH
  proposalId := 1
  proposalCreationTimeSeconds := 86_400

def aliceCreation : CreateRentalAgreementPayload where
  user := ⟨[1], by decide⟩
  proposalId := 2
  subnetId := ⟨[10], by decide⟩

/-- A proposal for a rental is executed at 3.5 XDR per ICP, and the subnet is created for it. -/
def rentalRun : List Label :=
  undisturbed (.executeRentalRequestProposal governanceCanisterId aliceProposal) 0
      [.exchangeRate (.ok (3_500_000_000, 9)), .accountBalance ⟨10 ^ 13⟩, .transfer (.ok 1),
        .notifyTopUp (.ok (10 ^ 16))] ++
    undisturbed (.executeCreateRentalAgreement governanceCanisterId aliceCreation) 1
      [.transfer (.ok 2), .notifyTopUp (.ok (9 * 10 ^ 16)), .authorized]

theorem rentalRun_isSome :
    ((system (10 ^ 12)).perform (idle (installedWorld (10 ^ 12) fun _ ↦ 10 ^ 13))
      rentalRun).isSome := by
  decide +kernel

/-- The configuration after that run, in which the subnet is rented. -/
def rentedConfiguration : Configuration :=
  ((system (10 ^ 12)).perform (idle (installedWorld (10 ^ 12) fun _ ↦ 10 ^ 13)) rentalRun).get
    rentalRun_isSome

theorem reachable_rentedConfiguration : (system (10 ^ 12)).Reachable rentedConfiguration :=
  System.reachable_get_perform (init_idle _ _) rentalRun_isSome

theorem exclusive_lifecycle_rented :
    (rentedConfiguration.state.canister.rentalAgreements[aliceCreation.subnetId]?).isSome ∧
      ExclusiveRentals rentedConfiguration.state.canister :=
  ⟨by decide +kernel, (exclusive_lifecycle reachable_rentedConfiguration).1⟩

end SubnetRental.Lifecycle
