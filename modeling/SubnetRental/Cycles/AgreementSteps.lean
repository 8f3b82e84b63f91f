import SubnetRental.Lifecycle.Discipline

/-!
# What one step does to one agreement

Three segments write a stored agreement: the end of a successful top-up, the burn pass and the
migration at an upgrade; the end of a creation stores a new one. `AgreementStep` lists what each
does to the agreement of one subnet, together with what the step adds to the list of ended calls:
`topUps` are the cycles that the successful top-ups of the subnet report, and `burns` the amounts
that `cycles_burn` returned for it. `agreementStep_of_next` is the inversion lemma behind every
statement about an agreement over a run. It rests on the guard of the agreement, which makes the
copy that a top-up works with the stored agreement.
-/

set_option autoImplicit false
set_option relaxedAutoImplicit false

namespace SubnetRental.Cycles

open Canister Lifecycle Foundation.GuardedCalls Foundation.MachineInteger
open Foundation.TreeMapTotals Foundation.TransitionSystem Std

/-! ### Ended calls -/

/-- An ended call: its operation and its result. -/
abbrev Ended := Operation × Except Trap Response

/-- The cycles a call added to the agreement of a subnet, if it is a top-up that returned `Ok`. -/
def topUpOf (subnetId : Principal) : Ended → Option ℕ
  | (.topUpSubnet i, .ok (.topUp (.ok summary))) =>
    if i = subnetId then some summary.cyclesAdded else none
  | _ => none

/-- The amounts `cycles_burn` returned for an agreement in a burn pass. -/
def burnsOf (subnetId : Principal) : Ended → List ℕ
  | (.burnCycles, .ok (.burned amounts)) =>
    (amounts.filter fun entry ↦ entry.1 = subnetId).map Prod.snd
  | _ => []

def topUps (subnetId : Principal) (ended : List Ended) : List ℕ :=
  ended.filterMap (topUpOf subnetId)

def burns (subnetId : Principal) (ended : List Ended) : List ℕ := ended.flatMap (burnsOf subnetId)

theorem topUps_append (subnetId : Principal) (first second : List Ended) :
    topUps subnetId (first ++ second) = topUps subnetId first ++ topUps subnetId second :=
  List.filterMap_append

theorem burns_append (subnetId : Principal) (first second : List Ended) :
    burns subnetId (first ++ second) = burns subnetId first ++ burns subnetId second :=
  List.flatMap_append

/-- A call that traps adds and burns nothing. -/
theorem ended_trap (subnetId : Principal) (operation : Operation) (reason : Trap) :
    topUps subnetId [(operation, .error reason)] = [] ∧
      burns subnetId [(operation, .error reason)] = [] := by
  cases operation <;> exact ⟨rfl, rfl⟩

/-- Only a top-up adds cycles. -/
theorem topUps_of_ne {operation : Operation} (h : ∀ i, operation ≠ .topUpSubnet i)
    (subnetId : Principal) (response : Response) :
    topUps subnetId [(operation, .ok response)] = [] := by
  cases operation with
  | topUpSubnet i => exact absurd rfl (h i)
  | _ => rfl

/-- Only a burn pass burns. -/
theorem burns_of_ne {operation : Operation} (h : operation ≠ .burnCycles) (subnetId : Principal)
    (response : Response) : burns subnetId [(operation, .ok response)] = [] := by
  cases operation with
  | burnCycles => exact absurd rfl h
  | _ => rfl

theorem topUps_of_error (subnetId i : Principal) (e : TopUpError) :
    topUps subnetId [(.topUpSubnet i, .ok (.topUp (.error e)))] = [] := rfl

/-! ### Segments -/

/-- A top-up that ends in its first segment failed. -/
theorem topUpSubnet_eq_reply {subnetId : Principal} {s s' : State} {response : Response}
    (h : topUpSubnet subnetId s = .reply s' response) : ∃ e, response = .topUp (.error e) := by
  unfold topUpSubnet at h
  split at h
  · exact ⟨_, (Outcome.reply.inj h).2.symm⟩
  · split at h
    · exact ⟨_, (Outcome.reply.inj h).2.symm⟩
    · cases h

/-- A top-up awaits the balance first. -/
theorem topUpSubnet_eq_suspend {subnetId : Principal} {s s' : State} {frame : Frame}
    (h : topUpSubnet subnetId s = .suspend s' frame) :
    ∃ rentalAgreement, frame = .topUpBalance subnetId rentalAgreement := by
  unfold topUpSubnet at h
  split at h
  · cases h
  · split at h
    · cases h
    · exact ⟨_, (Outcome.suspend.inj h).2.symm⟩

/-- No call that ends in its first segment is a successful top-up. -/
theorem topUps_of_startReply {operation : Operation} {s s' : State} {response : Response}
    (h : start operation s = .reply s' response) (subnetId : Principal) :
    topUps subnetId [(operation, .ok response)] = [] := by
  by_cases htopUp : ∃ i, operation = .topUpSubnet i
  · obtain ⟨i, rfl⟩ := htopUp
    obtain ⟨e, rfl⟩ := topUpSubnet_eq_reply h
    exact topUps_of_error subnetId i e
  · exact topUps_of_ne (fun i hi ↦ htopUp ⟨i, hi⟩) subnetId response

/-- A top-up whose conversion succeeded reports the cycles and replaces the stored agreement by the
one with the new totals, unless the sum of the ICP paid overflows. -/
theorem topUpAfterConvert_of_stored {s : State} {subnetId : Principal}
    {copy stored : RentalAgreement} {conditions : RentalConditions} (balance amount : Tokens)
    (blockIndex actualCycles : ℕ)
    (hconditions : s.rentalConditions copy.rentalConditionId = some conditions)
    (hcost : conditions.dailyCostCycles / secondsPerDay ≠ 0)
    (hstored : s.rentalAgreements[subnetId]? = some stored) :
    (2 ^ 64 ≤ stored.totalIcpPaid.e8s + balance.e8s ∧
      topUpAfterConvert subnetId copy balance amount s (.ok (blockIndex, actualCycles)) =
        .trap .tokensOverflow) ∨
    (stored.totalIcpPaid.e8s + balance.e8s < 2 ^ 64 ∧ ∃ s',
      topUpAfterConvert subnetId copy balance amount s (.ok (blockIndex, actualCycles)) =
        .reply s' (.topUp (.ok ⟨actualCycles,
          truncate 64 (secondsCharged conditions.dailyCostCycles actualCycles / secondsPerDay)⟩)) ∧
      s'.rentalRequests = s.rentalRequests ∧
      s'.rentalAgreements = s.rentalAgreements.insert subnetId
        (toppedUpAgreement copy stored conditions.dailyCostCycles actualCycles balance) ∧
      s'.locks = s.locks \ {agreementLock subnetId} ∧ s'.cycles = s.cycles) := by
  have hstored' : (s.persistEvent (.transferSuccess amount blockIndex)
      (some subnetId)).rentalAgreements[subnetId]? = some stored := hstored
  unfold topUpAfterConvert State.updateRentalAgreement
  simp only [State.getRentalConditions, State.persistEvent_rentalConditions, hconditions,
    if_neg hcost, icpPaidOverflows_of_stored hstored', decide_eq_true_eq,
    State.persistEvent_rentalAgreements, hstored]
  obtain hfits | hoverflows := Nat.lt_or_ge (stored.totalIcpPaid.e8s + balance.e8s) (2 ^ 64)
  · rw [if_neg (Nat.not_le_of_lt hfits)]
    exact .inr ⟨hfits, _, rfl, rfl, rfl, rfl, rfl⟩
  · rw [if_pos hoverflows]
    exact .inl ⟨hoverflows, rfl⟩

/-- A top-up that ends after an await either failed and changed no agreement, or it reports the
cycles that the CMC created and adds them to the stored agreement. -/
inductive TopUpEnd (subnetId : Principal) (s s' : State) : Frame → Answer → Response → Prop
  | failed (frame : Frame) (answer : Answer) (e : TopUpError)
      (h : s'.rentalAgreements = s.rentalAgreements) :
      TopUpEnd subnetId s s' frame answer (.topUp (.error e))
  | added (stored : RentalAgreement) (balance amount : Tokens) (blockIndex actualCycles : ℕ)
      (conditions : RentalConditions) (summary : TopUpSummary)
      (hstored : s.rentalAgreements[subnetId]? = some stored)
      (hconditions : s.rentalConditions stored.rentalConditionId = some conditions)
      (hsummary : summary.cyclesAdded = actualCycles)
      (h : s'.rentalAgreements = s.rentalAgreements.insert subnetId
        (toppedUpAgreement stored stored conditions.dailyCostCycles actualCycles balance)) :
      TopUpEnd subnetId s s' (.topUpConvert subnetId stored balance amount (.notify blockIndex))
        (.notifyTopUp (.ok actualCycles)) (.topUp (.ok summary))

theorem topUpEnd_of_reply {subnetId : Principal} {frame : Frame} {answer : Answer} {s s' : State}
    {response : Response} (hawaits : Awaits (.topUpSubnet subnetId) frame) (hknows : Knows frame s)
    (h : resume frame answer s = .reply s' response) :
    TopUpEnd subnetId s s' frame answer response := by
  cases frame <;> try exact hawaits.elim
  case topUpBalance i a =>
    obtain rfl : i = subnetId := hawaits
    change resumeTopUpBalance i a answer s = _ at h
    unfold resumeTopUpBalance at h
    split at h
    · split at h
      · obtain ⟨rfl, rfl⟩ := Outcome.reply.inj h
        exact .failed _ _ _ rfl
      · exact absurd h (beginConvert_ne_reply _ _ _ _ _)
    · cases h
    · cases h
  case topUpConvert i a balance amount stage =>
    obtain rfl : i = subnetId := hawaits
    obtain ⟨hstored, -⟩ := hknows
    change resumeTopUpConvert i a balance amount stage answer s = _ at h
    unfold resumeTopUpConvert at h
    split at h
    · cases h
    · cases h
    · rename_i result hresult
      cases result with
      | error e =>
        obtain ⟨rfl, rfl⟩ := Outcome.reply.inj h
        exact .failed _ _ _ rfl
      | ok converted =>
        obtain ⟨blockIndex, actualCycles⟩ := converted
        obtain ⟨rfl, rfl⟩ := convertIcpToCycles_eq_ok hresult
        unfold topUpAfterConvert at h
        dsimp only at h
        split at h
        · cases h
        · rename_i conditions hconditions
          split at h
          · cases h
          · split at h
            · cases h
            · split at h
              · cases h
              · rename_i t hupdate
                obtain ⟨old, hold, rfl⟩ := updateRentalAgreement_eq_some hupdate
                obtain rfl : a = old := Option.some.inj (hstored.symm.trans hold)
                obtain ⟨rfl, rfl⟩ := Outcome.reply.inj h
                exact .added a balance amount blockIndex actualCycles conditions _ hstored
                  hconditions rfl rfl

/-- A segment that ends suspended leaves the agreements as they are. -/
theorem agreements_of_suspend {frame frame' : Frame} {answer : Answer} {s s' : State}
    (h : resume frame answer s = .suspend s' frame') :
    s'.rentalAgreements = s.rentalAgreements := by
  have heffect := resume_effect frame answer s
  rw [h] at heffect
  cases heffect with
  | quiet _ _ hquiet => exact hquiet.rentalAgreements
  | opened _ _ _ _ _ _ hwrites => exact hwrites.rentalAgreements
  | locked _ _ _ _ _ _ _ _ hwrites => exact hwrites.rentalAgreements
  | cancelled _ _ _ _ _ hwrites => exact hwrites.rentalAgreements
  | granted payload r stored a =>
    have hnone := resumeCreateAuthorize_suspending payload a answer s
    change resumeCreateAuthorize payload a answer s = _ at h
    rw [h] at hnone
    exact hnone.elim
  | toppedUp subnetId a stored balance amount blockIndex actualCycles =>
    change topUpAfterConvert subnetId a balance amount s (.ok (blockIndex, actualCycles)) = _ at h
    unfold topUpAfterConvert at h
    dsimp only at h
    split at h
    · cases h
    · split at h
      · cases h
      · split at h
        · cases h
        · split at h <;> cases h

/-- What a burn pass does to an agreement, and what it returns for it: nothing, or one burn. -/
inductive BurnEnd (i : Principal) (s s' : State) (amounts : List (Principal × ℕ)) : Prop
  | kept (hsame : s'.rentalAgreements[i]? = s.rentalAgreements[i]?)
      (hfilter : (amounts.filter fun entry ↦ entry.1 = i) = []) : BurnEnd i s s' amounts
  | burned (stored : RentalAgreement) (burned : ℕ)
      (hstored : s.rentalAgreements[i]? = some stored) (hle : burned ≤ burnAmount s.now stored)
      (hnew : s'.rentalAgreements[i]? = some (burnedAgreement stored burned))
      (hfilter : (amounts.filter fun entry ↦ entry.1 = i) = [(i, burned)]) : BurnEnd i s s' amounts

/-- The loop does not touch an agreement that is not among its subnets. -/
theorem burnLoop_of_notMem {subnets : List Principal} {i : Principal} (hnot : i ∉ subnets)
    {s s' : State} {amounts : List (Principal × ℕ)}
    (h : burnLoop subnets s = .ok (amounts, s')) :
    s'.rentalAgreements[i]? = s.rentalAgreements[i]? ∧
      (amounts.filter fun entry ↦ entry.1 = i) = [] := by
  induction subnets generalizing s amounts with
  | nil =>
    obtain ⟨rfl, rfl⟩ := Prod.mk.inj (Except.ok.inj h)
    exact ⟨rfl, rfl⟩
  | cons subnetId rest ih =>
    rw [List.mem_cons, not_or] at hnot
    obtain ⟨first, s₁, others, hone, hothers, rfl⟩ := burnLoop_cons_eq_ok h
    obtain ⟨hsame, hfilter⟩ := ih hnot.2 hothers
    cases burnStep_of_burnOne hone with
    | skip => exact ⟨hsame, hfilter⟩
    | burn a burned hfree hstored hsome hdivisible hburned =>
      rw [hsame, List.singleton_append, List.filter_cons_of_neg (by simpa using Ne.symm hnot.1)]
      exact ⟨(getElem?_insert_ite ..).trans (if_neg (Ne.symm hnot.1)), hfilter⟩

/-- The loop over distinct subnets gets to an agreement at most once. -/
theorem burnLoop_end {subnets : List Principal} (hnodup : subnets.Nodup) (i : Principal)
    {s s' : State} {amounts : List (Principal × ℕ)}
    (h : burnLoop subnets s = .ok (amounts, s')) : BurnEnd i s s' amounts := by
  induction subnets generalizing s amounts with
  | nil =>
    obtain ⟨rfl, rfl⟩ := Prod.mk.inj (Except.ok.inj h)
    exact .kept rfl rfl
  | cons subnetId rest ih =>
    obtain ⟨hnot, hrest⟩ := List.nodup_cons.mp hnodup
    obtain ⟨first, s₁, others, hone, hothers, rfl⟩ := burnLoop_cons_eq_ok h
    cases burnStep_of_burnOne hone with
    | skip => exact ih hrest hothers
    | burn a burned hfree hstored hsome hdivisible hburned =>
      have hlookup : (burnedState s subnetId a burned).rentalAgreements[i]? =
          if subnetId = i then some (burnedAgreement a burned) else s.rentalAgreements[i]? :=
        getElem?_insert_ite ..
      by_cases hi : subnetId = i
      · subst hi
        obtain ⟨hsame, hfilter⟩ := burnLoop_of_notMem hnot hothers
        rw [if_pos rfl] at hlookup
        refine .burned a burned hstored (hburned ▸ min_le_left _ _) (hsame.trans hlookup) ?_
        rw [List.singleton_append, List.filter_cons_of_pos (by simp), hfilter]
      · rw [if_neg hi] at hlookup
        have hskip : ((subnetId, burned) :: others).filter (fun entry ↦ entry.1 = i) =
            others.filter fun entry ↦ entry.1 = i := List.filter_cons_of_neg (by simpa using hi)
        cases ih hrest hothers with
        | kept hsame hfilter => exact .kept (hsame.trans hlookup) (hskip.trans hfilter)
        | burned stored later hstored' hle hnew hfilter =>
          exact .burned stored later (hlookup.symm.trans hstored') hle hnew
            (hskip.trans hfilter)

/-- A burn pass burns for an agreement at most once. -/
theorem burnPass_end {s s' : State} {amounts : List (Principal × ℕ)} (hs : Consistent s)
    (h : burnPass s = .ok (amounts, s')) (i : Principal) : BurnEnd i s s' amounts := by
  have hkeys : (s.iterRentalAgreements.map fun entry ↦ entry.2.subnetId) =
      s.rentalAgreements.toList.map Prod.fst := by
    refine List.map_congr_left fun entry hentry ↦ ?_
    exact hs.agreement_subnet entry.1 entry.2
      (ExtTreeMap.mem_toList_iff_getElem?_eq_some.mp hentry)
  refine burnLoop_end ?_ i h
  rw [hkeys]
  exact nodup_keys_toList s.rentalAgreements

/-! ### Steps -/

/-- What a step does to the agreement of a subnet, and what the calls it ends account for. -/
inductive AgreementStep (c c' : Configuration) (i : Principal) : Label → List Ended → Prop
  | kept (a : Label) (ended : List Ended)
      (hsame : c'.state.canister.rentalAgreements[i]? = c.state.canister.rentalAgreements[i]?)
      (htopUps : topUps i ended = []) (hburns : burns i ended = []) : AgreementStep c c' i a ended
  | granted (a : Label) (ended : List Ended) (new : RentalAgreement)
      (hnone : c.state.canister.rentalAgreements[i]? = none)
      (hnew : c'.state.canister.rentalAgreements[i]? = some new)
      (hburned : new.totalCyclesBurned = 0)
      (htopUps : topUps i ended = []) (hburns : burns i ended = []) : AgreementStep c c' i a ended
  | toppedUp (id : ℕ) (ended : List Ended) (stored : RentalAgreement) (balance amount : Tokens)
      (blockIndex actualCycles : ℕ) (conditions : RentalConditions)
      (hcall : c.calls[id]? = some
        ⟨.topUpSubnet i, .topUpConvert i stored balance amount (.notify blockIndex),
          some (.notifyTopUp (.ok actualCycles))⟩)
      (hstored : c.state.canister.rentalAgreements[i]? = some stored)
      (hconditions : c.state.canister.rentalConditions stored.rentalConditionId = some conditions)
      (hnew : c'.state.canister.rentalAgreements[i]? =
        some (toppedUpAgreement stored stored conditions.dailyCostCycles actualCycles balance))
      (htopUps : topUps i ended = [actualCycles]) (hburns : burns i ended = []) :
      AgreementStep c c' i (.resume id) ended
  | burned (ended : List Ended) (stored : RentalAgreement) (burned : ℕ)
      (hstored : c.state.canister.rentalAgreements[i]? = some stored)
      (hle : burned ≤ burnAmount c.state.canister.now stored)
      (hnew : c'.state.canister.rentalAgreements[i]? = some (burnedAgreement stored burned))
      (htopUps : topUps i ended = []) (hburns : burns i ended = [burned]) :
      AgreementStep c c' i (.start .burnCycles) ended
  | repriced (stored : RentalAgreement)
      (hstored : c.state.canister.rentalAgreements[i]? = some stored)
      (hnew : c'.state.canister.rentalAgreements[i]? =
        some (repricedAgreement c.state.canister.now stored)) :
      AgreementStep c c' i (.environment .upgrade) []

/-- The end of a call that is neither a top-up nor a burn pass. -/
theorem ended_other {operation : Operation} (htopUp : ∀ i, operation ≠ .topUpSubnet i)
    (hburn : operation ≠ .burnCycles) (i : Principal) (response : Response) :
    topUps i [(operation, .ok response)] = [] ∧ burns i [(operation, .ok response)] = [] :=
  ⟨topUps_of_ne htopUp i response, burns_of_ne hburn i response⟩

section Ends

variable {c c' : Configuration} {s' : State} {i : Principal}

/-- A burn pass burns for the agreement at most once. -/
theorem agreementStep_of_burnCycles (hs : Consistent c.state.canister)
    (hstate : c'.state.canister = s') {response : Response}
    (h : burnCycles c.state.canister = .reply s' response) :
    AgreementStep c c' i (.start .burnCycles) [(.burnCycles, .ok response)] := by
  subst hstate
  unfold burnCycles at h
  split at h
  · cases h
  · rename_i amounts t hpass
    obtain ⟨rfl, rfl⟩ := Outcome.reply.inj h
    have hburns : burns i [(.burnCycles, .ok (.burned amounts))] =
        (amounts.filter fun entry ↦ entry.1 = i).map Prod.snd := List.append_nil _
    cases burnPass_end hs hpass i with
    | kept hsame hfilter => exact .kept _ _ hsame rfl (by rw [hburns, hfilter]; rfl)
    | burned stored burned hstored hle hnew hfilter =>
      exact .burned _ stored burned hstored hle hnew rfl (by rw [hburns, hfilter]; rfl)

/-- Every other call that ends in its first segment keeps the agreement. -/
theorem agreementStep_of_start {operation : Operation} (hburn : operation ≠ .burnCycles)
    (hstate : c'.state.canister = s') {response : Response}
    (h : start operation c.state.canister = .reply s' response) :
    AgreementStep c c' i (.start operation) [(operation, .ok response)] := by
  have hquiet := start_quiet operation hburn c.state.canister
  rw [h] at hquiet
  exact .kept _ _ (by rw [hstate, hquiet.rentalAgreements]) (topUps_of_startReply h i)
    (burns_of_ne hburn i response)

/-- A top-up adds to its own agreement what it reports. -/
theorem agreementStep_of_topUpEnd {id : ℕ} {j : Principal} {frame : Frame} {answer : Answer}
    {response : Response} (hcall : c.calls[id]? = some ⟨.topUpSubnet j, frame, some answer⟩)
    (hstate : c'.state.canister = s')
    (h : TopUpEnd j c.state.canister s' frame answer response) :
    AgreementStep c c' i (.resume id) [(.topUpSubnet j, .ok response)] := by
  subst hstate
  have hburns : burns i [(.topUpSubnet j, .ok response)] = [] := rfl
  cases h with
  | failed _ _ e hsame => exact .kept _ _ (by rw [hsame]) (topUps_of_error i j e) hburns
  | added stored balance amount blockIndex actualCycles conditions summary hstored hconditions
      hsummary hsame =>
    have hlookup := getElem?_insert_ite c.state.canister.rentalAgreements j i
      (toppedUpAgreement stored stored conditions.dailyCostCycles actualCycles balance)
    rw [← hsame] at hlookup
    by_cases hi : j = i
    · subst hi
      rw [if_pos rfl] at hlookup
      refine .toppedUp id _ stored balance amount blockIndex actualCycles conditions hcall
        hstored hconditions hlookup ?_ hburns
      change [_].filterMap _ = _
      simp [topUpOf, hsummary]
    · rw [if_neg hi] at hlookup
      refine .kept _ _ hlookup ?_ hburns
      change [_].filterMap _ = _
      simp [topUpOf, hi]

/-- Of the other calls, only a creation stores an agreement. -/
theorem agreementStep_of_resume {id : ℕ} {operation : Operation} {frame : Frame}
    {answer : Answer} {response : Response} (htopUp : ∀ j, operation ≠ .topUpSubnet j)
    (hawaits : Awaits operation frame) (hknows : Knows frame c.state.canister)
    (hstate : c'.state.canister = s')
    (h : resume frame answer c.state.canister = .reply s' response) :
    AgreementStep c c' i (.resume id) [(operation, .ok response)] := by
  subst hstate
  have hburn : operation ≠ .burnCycles := by
    rintro rfl
    exact hawaits.elim
  obtain ⟨htopUps, hburns⟩ := ended_other htopUp hburn i response
  have heffect := resume_effect frame answer c.state.canister
  rw [h] at heffect
  have hkept (hsame : c'.state.canister.rentalAgreements = c.state.canister.rentalAgreements) :
      AgreementStep c c' i (.resume id) [(operation, .ok response)] :=
    .kept _ _ (by rw [hsame]) htopUps hburns
  cases heffect with
  | quiet _ _ hquiet => exact hkept hquiet.rentalAgreements
  | opened _ _ _ _ _ _ hwrites => exact hkept hwrites.rentalAgreements
  | locked _ _ _ _ _ _ _ _ hwrites => exact hkept hwrites.rentalAgreements
  | cancelled _ _ _ _ _ hwrites => exact hkept hwrites.rentalAgreements
  | granted payload r stored new answer hanswer hstored hfree hwrites =>
    obtain ⟨-, -, conditions, convertedCycles, nowNanos, -, -, hnew⟩ := hknows
    have hlookup := getElem?_insert_ite c.state.canister.rentalAgreements new.subnetId i new
    rw [← hwrites.rentalAgreements] at hlookup
    by_cases hi : new.subnetId = i
    · rw [if_pos hi] at hlookup
      exact .granted _ _ new (hi ▸ hfree) hlookup (by rw [hnew]; rfl) htopUps hburns
    · rw [if_neg hi] at hlookup
      exact .kept _ _ hlookup htopUps hburns
  | toppedUp =>
    cases operation <;> try exact hawaits.elim
    case topUpSubnet j => exact absurd rfl (htopUp j)

/-- An upgrade reprices at most the agreement of the target subnet. -/
theorem agreementStep_of_upgrade (hstate : c'.state.canister = postUpgrade c.state.canister) :
    AgreementStep c c' i (.environment .upgrade) [] := by
  obtain hsame | ⟨stored, hstored, -, hnew⟩ := (upgraded_postUpgrade c.state.canister).agreements
  · exact .kept _ _ (by rw [hstate, hsame]) rfl rfl
  · have hlookup := getElem?_insert_ite c.state.canister.rentalAgreements targetSubnet i
      (repricedAgreement c.state.canister.now stored)
    rw [← hnew, ← hstate] at hlookup
    by_cases hi : targetSubnet = i
    · subst hi
      rw [if_pos rfl] at hlookup
      exact .repriced stored hstored hlookup
    · rw [if_neg hi] at hlookup
      exact .kept _ _ hlookup rfl rfl

end Ends

/-- The inversion lemma for one agreement. -/
theorem agreementStep_of_next {cycles : ℕ} {allowed : Configuration → Label → Prop}
    {c c' : Configuration} {a : Label} (hc : (system cycles).ReachableWithin allowed c)
    (hnext : (system cycles).next c a = some c') (i : Principal) :
    ∃ ended, c'.trace = c.trace ++ ended ∧ AgreementStep c c' i a ended := by
  have hsound := sound_of_reachable hc
  have hconsistent := hsound.inv.consistent
  cases Service.step_of_next hnext with
  | startTrap operation reason h =>
    exact ⟨_, rfl, .kept _ _ rfl (ended_trap i operation reason).1
      (ended_trap i operation reason).2⟩
  | startSuspend operation state frame h =>
    obtain ⟨s', hsegment, rfl⟩ := Outcome.mapState_eq_suspend h
    have hquiet := quiet_of_suspend hsegment
    exact ⟨[], (List.append_nil _).symm, .kept _ _ (by rw [hquiet.rentalAgreements]) rfl rfl⟩
  | startReply operation state response h =>
    obtain ⟨s', hsegment, rfl⟩ := Outcome.mapState_eq_reply h
    refine ⟨_, rfl, ?_⟩
    by_cases hburn : operation = .burnCycles
    · subst hburn
      exact agreementStep_of_burnCycles hconsistent rfl hsegment
    · exact agreementStep_of_start hburn rfl hsegment
  | serve id operation frame answer hcall =>
    refine ⟨[], (List.append_nil _).symm, .kept _ _ ?_ rfl rfl⟩
    have hstate := world_answer_canister c.state frame.outgoing answer
    change (c.state.answer frame.outgoing answer).canister.rentalAgreements[i]? = _
    rw [hstate]
  | resumeTrap id operation frame answer reason hcall h =>
    exact ⟨_, rfl, .kept _ _ rfl (ended_trap i operation reason).1
      (ended_trap i operation reason).2⟩
  | resumeSuspend id operation frame answer state frame' hcall h =>
    obtain ⟨s', hsegment, rfl⟩ := Outcome.mapState_eq_suspend h
    refine ⟨[], (List.append_nil _).symm, .kept _ _ ?_ rfl rfl⟩
    rw [agreements_of_suspend hsegment]
  | resumeReply id operation frame answer state response hcall h =>
    obtain ⟨s', hsegment, rfl⟩ := Outcome.mapState_eq_reply h
    have hknown := hsound.assert id _ hcall
    refine ⟨_, rfl, ?_⟩
    by_cases htopUp : ∃ j, operation = .topUpSubnet j
    · obtain ⟨j, rfl⟩ := htopUp
      exact agreementStep_of_topUpEnd hcall rfl
        (topUpEnd_of_reply hknown.awaits hknown.knows hsegment)
    · exact agreementStep_of_resume (fun j hj ↦ htopUp ⟨j, hj⟩) hknown.awaits hknown.knows rfl
        hsegment
  | environment event state h =>
    refine ⟨[], (List.append_nil _).symm, ?_⟩
    cases environmentStep_of_environment h with
    | passed | paid | received | reserved => exact .kept _ _ rfl rfl rfl
    | upgraded => exact agreementStep_of_upgrade rfl

end SubnetRental.Cycles
