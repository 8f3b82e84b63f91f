import SubnetRental.Canister.Queries
import SubnetRental.Cycles.Account
import SubnetRental.Cycles.PaidTime
import SubnetRental.Foundation.Rounding
import SubnetRental.Lifecycle.Steps

/-!
# What the status of an agreement tells

`rental_agreement_status` rounds the time that is paid for down to days, and every top-up reports
the days it added rounded down as well. `status_of_run` compares the statuses before and after any
interleaving without an upgrade: the cycles left change by exactly what the top-ups and the burn
passes report, an agreement that is covered for a number of days is not past due before they are
over, and the days left differ from the days left before, plus the days the top-ups report, minus
the days that passed, by at most one for each rounding. `status_paced` bounds how fast the cycles
left can go down while days are left.
-/

set_option autoImplicit false
set_option relaxedAutoImplicit false

namespace SubnetRental.Cycles

open Canister Lifecycle Foundation.GuardedCalls Foundation.MachineInteger Foundation.Rounding
open Foundation.FundedDeadline (remaining)
open Foundation.TransitionSystem Foundation.TreeMapTotals Std

/-! ### The status -/

def nanosPerDay : ℕ := secondsPerDay * billion

theorem calculateDaysRemaining_eq (paidUntilNanos nowNanos : ℕ) :
    calculateDaysRemaining paidUntilNanos nowNanos =
      (paidUntilNanos - nowNanos) / nanosPerDay := by
  unfold calculateDaysRemaining
  split_ifs with hpast
  · rw [Nat.sub_eq_zero_of_le hpast, Nat.zero_div]
  · rfl

/-- What a status tells about an agreement. -/
structure StatusOf (now : ℕ) (a : RentalAgreement) (status : RentalAgreementStatus) : Prop where
  cyclesLeft : status.cyclesLeft = a.cyclesRemaining
  daysLeft : status.daysLeft = (a.paidUntilNanos - now) / nanosPerDay
  late : status.description = pastDue ↔ a.paidUntilNanos < now

/-- A stored agreement has a status. -/
theorem status_of_stored {s : State} {i : Principal} {a : RentalAgreement}
    (hstored : s.rentalAgreements[i]? = some a) :
    ∃ status, s.rentalAgreementStatus i = .ok status ∧ StatusOf s.now a status := by
  unfold State.rentalAgreementStatus State.getRentalAgreement
  rw [hstored]
  exact ⟨_, rfl, rfl, calculateDaysRemaining_eq _ _, description_eq_pastDue_iff _ _⟩

/-- Only a stored agreement has a status. -/
theorem stored_of_status {s : State} {i : Principal} {status : RentalAgreementStatus}
    (h : s.rentalAgreementStatus i = .ok status) :
    ∃ a, s.rentalAgreements[i]? = some a ∧ StatusOf s.now a status := by
  cases hstored : s.rentalAgreements[i]? with
  | none =>
    unfold State.rentalAgreementStatus State.getRentalAgreement at h
    rw [hstored] at h
    cases h
  | some a =>
    obtain ⟨status', h', hstatus⟩ := status_of_stored hstored
    obtain rfl := Except.ok.inj (h'.symm.trans h)
    exact ⟨a, rfl, hstatus⟩

/-- The listed agreements are the stored ones. -/
theorem mem_listRentalAgreements_iff {s : State} {a : RentalAgreement} :
    a ∈ s.listRentalAgreements ↔ ∃ i : Principal, s.rentalAgreements[i]? = some a := by
  constructor
  · intro ha
    obtain ⟨⟨i, _⟩, hentry, rfl⟩ := List.mem_map.mp ha
    exact ⟨i, ExtTreeMap.mem_toList_iff_getElem?_eq_some.mp hentry⟩
  · rintro ⟨i, hstored⟩
    exact List.mem_map.mpr ⟨(i, a), ExtTreeMap.mem_toList_iff_getElem?_eq_some.mpr hstored, rfl⟩

/-! ### What top-ups report -/

/-- The summary that a successful top-up of a subnet returned. -/
def summaryOf (subnetId : Principal) : Ended → Option TopUpSummary
  | (.topUpSubnet i, .ok (.topUp (.ok summary))) => if i = subnetId then some summary else none
  | _ => none

def summaries (subnetId : Principal) (ended : List Ended) : List TopUpSummary :=
  ended.filterMap (summaryOf subnetId)

theorem summaries_append (subnetId : Principal) (first second : List Ended) :
    summaries subnetId (first ++ second) = summaries subnetId first ++ summaries subnetId second :=
  List.filterMap_append

theorem topUpOf_eq (subnetId : Principal) (entry : Ended) :
    topUpOf subnetId entry = (summaryOf subnetId entry).map TopUpSummary.cyclesAdded := by
  unfold topUpOf
  split
  · rename_i i summary
    change _ = Option.map _ (if i = subnetId then some summary else none)
    split_ifs <;> rfl
  · rename_i hother
    unfold summaryOf
    split
    · exact (hother _ _ rfl).elim
    · rfl

theorem topUps_eq (subnetId : Principal) (ended : List Ended) :
    topUps subnetId ended = (summaries subnetId ended).map TopUpSummary.cyclesAdded := by
  unfold topUps summaries
  rw [List.map_filterMap]
  exact congrArg (List.filterMap · ended) (funext (topUpOf_eq subnetId))

/-- Only a top-up returns a summary. -/
theorem summaries_of_ne {operation : Operation} (h : ∀ i, operation ≠ .topUpSubnet i)
    (subnetId : Principal) (response : Response) :
    summaries subnetId [(operation, .ok response)] = [] := by
  cases operation with
  | topUpSubnet i => exact absurd rfl (h i)
  | _ => rfl

theorem summaries_topUp (subnetId i : Principal) (summary : TopUpSummary) :
    summaries subnetId [(.topUpSubnet i, .ok (.topUp (.ok summary)))] =
      if i = subnetId then [summary] else [] := by
  change [_].filterMap _ = _
  by_cases hi : i = subnetId <;> simp [summaryOf, hi]

theorem summaries_trap (subnetId : Principal) (operation : Operation) (reason : Trap) :
    summaries subnetId [(operation, .error reason)] = [] := by
  cases operation <;> rfl

/-- The days that cycles pay for at a daily cost, as `top_up_subnet` computes them. -/
def daysPaid (dailyCostCycles actualCycles : ℕ) : ℕ :=
  truncate 64 (secondsCharged dailyCostCycles actualCycles / secondsPerDay)

/-- Every summary tells the days that its cycles pay for. -/
def Informs (dailyCostCycles : ℕ) (added : List TopUpSummary) : Prop :=
  ∀ summary ∈ added, summary.daysAdded = daysPaid dailyCostCycles summary.cyclesAdded

theorem informs_nil (dailyCostCycles : ℕ) : Informs dailyCostCycles [] :=
  List.forall_mem_nil _

theorem Informs.append {dailyCostCycles : ℕ} {first second : List TopUpSummary}
    (hfirst : Informs dailyCostCycles first) (hsecond : Informs dailyCostCycles second) :
    Informs dailyCostCycles (first ++ second) :=
  fun summary hsummary ↦ (List.mem_append.mp hsummary).elim (hfirst summary) (hsecond summary)

/-- A top-up that ends after an await failed, or it tells the days at the daily cost of the stored
agreement. -/
theorem summary_of_reply {subnetId : Principal} {frame : Frame} {answer : Answer} {s s' : State}
    {response : Response} (hawaits : Awaits (.topUpSubnet subnetId) frame) (hknows : Knows frame s)
    (h : resume frame answer s = .reply s' response) :
    (∃ e, response = .topUp (.error e)) ∨
      ∃ stored conditions actualCycles, s.rentalAgreements[subnetId]? = some stored ∧
        s.rentalConditions stored.rentalConditionId = some conditions ∧
        response = .topUp (.ok
          ⟨actualCycles, daysPaid (RentalConditions.dailyCostCycles conditions) actualCycles⟩) := by
  cases frame <;> try exact hawaits.elim
  case topUpBalance i a =>
    change resumeTopUpBalance i a answer s = _ at h
    unfold resumeTopUpBalance at h
    split at h
    · split at h
      · exact .inl ⟨_, (Outcome.reply.inj h).2.symm⟩
      · exact absurd h (beginConvert_ne_reply _ _ _ _ _)
    · cases h
    · cases h
  case topUpConvert i a balance amount stage =>
    obtain rfl : i = subnetId := hawaits
    obtain ⟨hstored, -⟩ := hknows
    change resumeTopUpConvert i a balance amount stage answer s = _ at h
    unfold resumeTopUpConvert at h
    split at h
    · cases h
    · cases h
    · rename_i result hresult
      cases result with
      | error e => exact .inl ⟨_, (Outcome.reply.inj h).2.symm⟩
      | ok converted =>
        obtain ⟨blockIndex, actualCycles⟩ := converted
        unfold topUpAfterConvert at h
        dsimp only at h
        split at h
        · cases h
        · rename_i conditions hconditions
          split at h
          · cases h
          · split at h
            · cases h
            · split at h
              · cases h
              · exact .inr ⟨a, conditions, actualCycles, hstored, hconditions,
                  (Outcome.reply.inj h).2.symm⟩

/-- A step with an agreement in store tells the days at its daily cost. -/
theorem informs_of_next {cycles : ℕ} {c c' : Configuration} {a : Label}
    (hc : (system cycles).Reachable c) (hnext : (system cycles).next c a = some c')
    {i : Principal} {stored : RentalAgreement} {conditions : RentalConditions}
    (hstored : c.state.canister.rentalAgreements[i]? = some stored)
    (hconditions : c.state.canister.rentalConditions stored.rentalConditionId = some conditions) :
    ∃ ended, c'.trace = c.trace ++ ended ∧
      Informs conditions.dailyCostCycles (summaries i ended) := by
  have hsound := sound_of_reachable hc
  have hnone := informs_nil conditions.dailyCostCycles
  have hother {operation : Operation} (hne : ¬ ∃ j, operation = .topUpSubnet j)
      (response : Response) :
      Informs conditions.dailyCostCycles (summaries i [(operation, .ok response)]) := by
    rw [summaries_of_ne (fun j hj ↦ hne ⟨j, hj⟩)]
    exact hnone
  refine replies_of_next
    (T := fun _ _ ended ↦ Informs conditions.dailyCostCycles (summaries i ended))
    ⟨fun operation ↦ ?_, fun id operation frame answer hcall ↦ ?_, fun operation reason ↦ ?_,
      fun _ operation reason ↦ ?_, fun _ _ _ _ ↦ hnone, fun _ ↦ hnone⟩ hnext
  · cases hsegment : start operation c.state.canister with
    | trap reason => trivial
    | suspend s' frame => exact hnone
    | reply s' response =>
      by_cases htopUp : ∃ j, operation = .topUpSubnet j
      · obtain ⟨j, rfl⟩ := htopUp
        obtain ⟨e, rfl⟩ := topUpSubnet_eq_reply hsegment
        exact hnone
      · exact hother htopUp response
  · have hknown := hsound.assert id _ hcall
    cases hsegment : resume frame answer c.state.canister with
    | trap reason => trivial
    | suspend s' frame' => exact hnone
    | reply s' response =>
      by_cases htopUp : ∃ j, operation = .topUpSubnet j
      · obtain ⟨j, rfl⟩ := htopUp
        obtain ⟨e, rfl⟩ | ⟨copy, conditions', actualCycles, hcopy, hconditions', rfl⟩ :=
          summary_of_reply hknown.awaits hknown.knows hsegment
        · exact hnone
        · change Informs _ (summaries i [_])
          rw [summaries_topUp]
          split_ifs with hi
          · subst hi
            obtain rfl := Option.some.inj (hstored.symm.trans hcopy)
            obtain rfl := Option.some.inj (hconditions.symm.trans hconditions')
            exact List.forall_mem_singleton.mpr rfl
          · exact hnone
      · exact hother htopUp response
  · rw [summaries_trap]
    exact hnone
  · rw [summaries_trap]
    exact hnone

/-! ### Runs -/

/-- What is known about an agreement that was stored at an earlier moment. -/
structure Followed (i : Principal) (dailyCostCycles since : ℕ) (start : RentalAgreement)
    (ended : List Ended) (c : Configuration) (stored : RentalAgreement) : Prop where
  found : c.state.canister.rentalAgreements[i]? = some stored
  account : Account i dailyCostCycles start ended stored
  informs : Informs dailyCostCycles (summaries i ended)
  since_le : since ≤ c.state.canister.now

theorem now_mono {cycles : ℕ} {c c' : Configuration} {a : Label}
    (hnext : (system cycles).next c a = some c') :
    c.state.canister.now ≤ c'.state.canister.now := by
  obtain hsame | ⟨-, hle⟩ := now_of_next hnext
  · exact hsame.ge
  · exact hle

/-- A stored agreement is followed over every run without an upgrade. -/
theorem followed_of_run {cycles : ℕ} {c c' : Configuration} {i : Principal}
    {start : RentalAgreement} (hc : (system cycles).Reachable c)
    (hstart : c.state.canister.rentalAgreements[i]? = some start)
    (hrun : (system cycles).RunWithin (fun c a ↦ noUpgrade c a) c c') :
    ∃ ended stored, c'.trace = c.trace ++ ended ∧
      Followed i (standardConditions start.rentalConditionId).dailyCostCycles
        c.state.canister.now start ended c' stored := by
  refine hrun.induct (J := fun d ↦ ∃ ended stored, d.trace = c.trace ++ ended ∧
    Followed i (standardConditions start.rentalConditionId).dailyCostCycles
      c.state.canister.now start ended d stored) ?_ ?_
  · have hwell := (sound_of_reachable hc).inv.consistent.agreement_wellFormed i start hstart
    exact ⟨[], start, (List.append_nil _).symm, hstart, Account.refl _ _ hwell, informs_nil _,
      le_rfl⟩
  · rintro u v label hu ⟨ended, stored, htrace, hstored, haccount, hinforms, hsince⟩ hkind hnext
    have hreach : (system cycles).Reachable u :=
      System.ReachableWithin.append hc (hu.mono fun _ _ _ ↦ trivial)
    have hconditions := (sound_of_reachable hreach).inv.consistent.conditions
      start.rentalConditionId
    obtain ⟨more, new, hmore, hnew, haccount'⟩ :=
      haccount.step hreach hnext hkind hconditions hstored
    rw [← haccount.condition] at hconditions
    obtain ⟨more', hmore', hinforms'⟩ := informs_of_next hreach hnext hstored hconditions
    obtain rfl : more = more' := List.append_cancel_left (hmore.symm.trans hmore')
    refine ⟨ended ++ more, new, by rw [hmore, htrace, List.append_assoc], hnew, haccount', ?_,
      hsince.trans (now_mono hnext)⟩
    rw [summaries_append]
    rw [haccount.condition] at hinforms'
    exact hinforms.append hinforms'

/-! ### Days and cycles -/

/-- The time that the cycles of a top-up pay for at a daily cost, in nanoseconds. -/
def nanosAdded (dailyCostCycles : ℕ) (summary : TopUpSummary) : ℕ :=
  billion * secondsCharged dailyCostCycles summary.cyclesAdded

theorem nanosPaid_topUps (dailyCostCycles : ℕ) (i : Principal) (ended : List Ended) :
    nanosPaid dailyCostCycles (topUps i ended) =
      ((summaries i ended).map (nanosAdded dailyCostCycles)).sum := by
  unfold nanosPaid
  rw [topUps_eq, List.map_map]
  rfl

/-- Days that fit into 64 bits as nanoseconds are not truncated. -/
theorem daysPaid_eq {dailyCostCycles actualCycles : ℕ}
    (hfits : billion * secondsCharged dailyCostCycles actualCycles < 2 ^ 64) :
    daysPaid dailyCostCycles actualCycles =
      billion * secondsCharged dailyCostCycles actualCycles / nanosPerDay := by
  unfold daysPaid nanosPerDay
  generalize secondsCharged dailyCostCycles actualCycles = seconds at hfits ⊢
  have hpositive : 0 < billion := by decide
  have hsmall : seconds / secondsPerDay < 2 ^ 64 :=
    calc seconds / secondsPerDay
        ≤ seconds := Nat.div_le_self _ _
      _ ≤ billion * seconds := Nat.le_mul_of_pos_left _ hpositive
      _ < 2 ^ 64 := hfits
  rw [Nat.mul_comm billion seconds, Nat.mul_div_mul_right _ _ hpositive]
  exact Nat.mod_eq_of_lt hsmall

/-- The days that the summaries tell are the nanoseconds, rounded down one by one. -/
theorem Informs.daysAdded {dailyCostCycles : ℕ} {added : List TopUpSummary}
    (h : Informs dailyCostCycles added)
    (hfits : (added.map (nanosAdded dailyCostCycles)).sum < 2 ^ 64) :
    added.map TopUpSummary.daysAdded =
      (added.map (nanosAdded dailyCostCycles)).map (· / nanosPerDay) := by
  rw [List.map_map]
  refine List.map_congr_left fun summary hsummary ↦ ?_
  have hpart : nanosAdded dailyCostCycles summary ≤
      (added.map (nanosAdded dailyCostCycles)).sum :=
    List.le_sum_of_mem (List.mem_map_of_mem hsummary)
  exact (h summary hsummary).trans (daysPaid_eq (hpart.trans_lt hfits))

/-- How two statuses of an agreement differ, `added` being what the top-ups between them returned
and `burned` the amounts that were burned. -/
structure Reported (since now : ℕ) (stored : RentalAgreement)
    (status later : RentalAgreementStatus) (added : List TopUpSummary) (burned : List ℕ) :
    Prop where
  cyclesLeft : stored.totalCyclesCreated < 2 ^ 128 - 1 →
    later.cyclesLeft + burned.sum =
      status.cyclesLeft + (added.map TopUpSummary.cyclesAdded).sum
  covered : now ≤ since + nanosPerDay * status.daysLeft → status.description ≠ pastDue →
    later.description ≠ pastDue
  days_le : stored.paidUntilNanos < 2 ^ 64 - 1 → status.description ≠ pastDue →
    status.daysLeft + (added.map TopUpSummary.daysAdded).sum ≤
      later.daysLeft + (now - since) / nanosPerDay + 1
  le_days : stored.paidUntilNanos < 2 ^ 64 - 1 → later.description ≠ pastDue →
    later.daysLeft + (now - since) / nanosPerDay ≤
      status.daysLeft + (added.map TopUpSummary.daysAdded).sum + added.length
  late_days : later.description = pastDue → later.daysLeft = 0

section Reported

variable {i : Principal} {dailyCostCycles since : ℕ} {start stored : RentalAgreement}
  {ended : List Ended} {c : Configuration} {status later : RentalAgreementStatus}

/-- Below the largest deadline nothing was cut off. -/
theorem Followed.paidUntil_eq (h : Followed i dailyCostCycles since start ended c stored)
    (hbelow : stored.paidUntilNanos < 2 ^ 64 - 1) :
    stored.paidUntilNanos = start.paidUntilNanos +
      ((summaries i ended).map (nanosAdded dailyCostCycles)).sum := by
  have hpaid := h.account.paidUntil
  rw [nanosPaid_topUps] at hpaid
  have hmax : maxValue 64 = 2 ^ 64 - 1 := rfl
  omega

theorem Followed.le_paidUntil (h : Followed i dailyCostCycles since start ended c stored)
    (hwell : WellFormedAgreement start) : start.paidUntilNanos ≤ stored.paidUntilNanos := by
  rw [h.account.paidUntil]
  exact le_min (Nat.le_add_right _ _) (lt_two_pow_iff.mp hwell.paidUntil_lt)

theorem Followed.reported (h : Followed i dailyCostCycles since start ended c stored)
    (hstart : WellFormedAgreement start) (hstored : WellFormedAgreement stored)
    (hstatus : StatusOf since start status)
    (hlater : StatusOf c.state.canister.now stored later) :
    Reported since c.state.canister.now stored status later (summaries i ended)
      (burns i ended) where
  cyclesLeft hbelow := by
    have hcreated := h.account.created
    have hburned := h.account.burned
    have hmax : maxValue 128 = 2 ^ 128 - 1 := rfl
    have := hstart.burned_le
    have := hstored.burned_le
    rw [hlater.cyclesLeft, hstatus.cyclesLeft, ← topUps_eq]
    unfold RentalAgreement.cyclesRemaining
    omega
  covered hwithin hdescription := by
    rw [Ne, hstatus.late, Nat.not_lt] at hdescription
    rw [Ne, hlater.late, Nat.not_lt]
    have hdays : nanosPerDay * status.daysLeft ≤ start.paidUntilNanos - since := by
      rw [hstatus.daysLeft]
      exact Nat.mul_div_le _ _
    have := h.le_paidUntil hstart
    omega
  days_le hbelow hdescription := by
    rw [Ne, hstatus.late, Nat.not_lt] at hdescription
    have hpaid := h.paidUntil_eq hbelow
    have hsince := h.since_le
    rw [h.informs.daysAdded (by omega), hstatus.daysLeft, hlater.daysLeft]
    generalize c.state.canister.now = now at hsince ⊢
    generalize (summaries i ended).map (nanosAdded dailyCostCycles) = parts at hpaid ⊢
    have htotal : start.paidUntilNanos - since + parts.sum ≤
        stored.paidUntilNanos - now + (now - since) := by omega
    calc (start.paidUntilNanos - since) / nanosPerDay + (parts.map (· / nanosPerDay)).sum
        ≤ (start.paidUntilNanos - since + parts.sum) / nanosPerDay := sum_div_le _ _ _
      _ ≤ (stored.paidUntilNanos - now + (now - since)) / nanosPerDay :=
        Nat.div_le_div_right htotal
      _ ≤ (stored.paidUntilNanos - now) / nanosPerDay + (now - since) / nanosPerDay + 1 :=
        Nat.add_div_le_div_add_div_add_one _ _ _
  le_days hbelow hdescription := by
    rw [Ne, hlater.late, Nat.not_lt] at hdescription
    have hpaid := h.paidUntil_eq hbelow
    have hsince := h.since_le
    rw [h.informs.daysAdded (by omega), hstatus.daysLeft, hlater.daysLeft]
    generalize c.state.canister.now = now at hsince hdescription ⊢
    have hlength : (summaries i ended).length =
        ((summaries i ended).map (nanosAdded dailyCostCycles)).length := (List.length_map _).symm
    rw [hlength]
    generalize (summaries i ended).map (nanosAdded dailyCostCycles) = parts at hpaid ⊢
    have htotal : stored.paidUntilNanos - now + (now - since) ≤
        start.paidUntilNanos - since + parts.sum := by omega
    calc (stored.paidUntilNanos - now) / nanosPerDay + (now - since) / nanosPerDay
        ≤ (stored.paidUntilNanos - now + (now - since)) / nanosPerDay :=
          Nat.div_add_div_le_add_div
      _ ≤ (start.paidUntilNanos - since + parts.sum) / nanosPerDay :=
        Nat.div_le_div_right htotal
      _ ≤ (start.paidUntilNanos - since) / nanosPerDay +
          (parts.map (· / nanosPerDay)).sum + parts.length := div_sum_le _ _ _
  late_days hdescription := by
    rw [hlater.late] at hdescription
    rw [hlater.daysLeft, Nat.sub_eq_zero_of_le hdescription.le, Nat.zero_div]

end Reported

/-- From an agreement that has a status, in every interleaving without an upgrade, the agreement
stays listed, and its statuses differ by what top-ups and burn passes report between them. -/
theorem status_of_run {cycles : ℕ} {c c' : Configuration} {i : Principal}
    {status : RentalAgreementStatus} (hc : (system cycles).Reachable c)
    (hstatus : c.state.canister.rentalAgreementStatus i = .ok status)
    (hrun : (system cycles).RunWithin (fun c a ↦ noUpgrade c a) c c') :
    ∃ ended, c'.trace = c.trace ++ ended ∧
      ∃ stored ∈ c'.state.canister.listRentalAgreements, stored.subnetId = i ∧
        ∃ later, c'.state.canister.rentalAgreementStatus i = .ok later ∧
          Reported c.state.canister.now c'.state.canister.now stored status later
            (summaries i ended) (burns i ended) := by
  obtain ⟨start, hstart, htold⟩ := stored_of_status hstatus
  obtain ⟨ended, stored, htrace, hfollowed⟩ := followed_of_run hc hstart hrun
  have hconsistent := (sound_of_reachable hc).inv.consistent
  have hconsistent' := (sound_of_reachable
    (System.ReachableWithin.append hc (hrun.mono fun _ _ _ ↦ trivial))).inv.consistent
  obtain ⟨later, hlater, htold'⟩ := status_of_stored hfollowed.found
  exact ⟨ended, htrace, stored, mem_listRentalAgreements_iff.mpr ⟨i, hfollowed.found⟩,
    hconsistent'.agreement_subnet i stored hfollowed.found, later, hlater,
    hfollowed.reported (hconsistent.agreement_wellFormed i start hstart)
      (hconsistent'.agreement_wellFormed i stored hfollowed.found) htold htold'⟩

/-! ### The status around a top-up -/

/-- The status right after the creation of an agreement. -/
def grantedStatus : RentalAgreementStatus := ⟨covered 180, 10 ^ 17, 180⟩

theorem afterGrant_status :
    afterGrant.state.canister.rentalAgreementStatus aliceCreation.subnetId = .ok grantedStatus := by
  decide +kernel

theorem afterGrant_reachable : (system (10 ^ 12)).Reachable afterGrant :=
  (System.reachable_get_perform (init_idle _ _) beforeGrant_isSome).tail
    (Option.some_get grant_isSome).symm

/-- The configuration after a top-up among burn passes. -/
def afterTopUp : Configuration :=
  ((system (10 ^ 12)).performWithin (fun c a ↦ noUpgrade c a) afterGrant topUpAmongBurns).get
    topUpAmongBurns_isSome

theorem afterTopUp_run :
    (system (10 ^ 12)).RunWithin (fun c a ↦ noUpgrade c a) afterGrant afterTopUp :=
  System.runWithin_of_performWithin (Option.some_get topUpAmongBurns_isSome).symm

theorem status_of_afterTopUp :
    ∃ ended, afterTopUp.trace = afterGrant.trace ++ ended ∧
      ∃ stored ∈ afterTopUp.state.canister.listRentalAgreements,
        stored.subnetId = aliceCreation.subnetId ∧
        ∃ later,
          afterTopUp.state.canister.rentalAgreementStatus aliceCreation.subnetId = .ok later ∧
          Reported afterGrant.state.canister.now afterTopUp.state.canister.now stored grantedStatus
            later (summaries aliceCreation.subnetId ended) (burns aliceCreation.subnetId ended) :=
  status_of_run afterGrant_reachable afterGrant_status afterTopUp_run

/-! ### The pace of the burn passes -/

/-- With days left a burn pass asks for at most its minute's part of what is left. -/
theorem burnAmount_mul_le {now days : ℕ} {a : RentalAgreement} (hdays : 0 < days)
    (hwithin : now + nanosPerDay * days ≤ a.paidUntilNanos) :
    burnAmount now a * (1440 * days) ≤ a.cyclesRemaining := by
  have hday : nanosPerDay * days = 86400 * days * billion := by
    unfold nanosPerDay secondsPerDay
    ring
  have hseconds : 86400 * days ≤ remaining billion now a.paidUntilNanos :=
    (Nat.le_div_iff_mul_le (by decide)).mpr (by omega)
  have hshare : burnAmount now a ≤ a.cyclesRemaining /
      remaining billion now a.paidUntilNanos * cyclesBurnIntervalSeconds :=
    burnAmount_le_share (by unfold billion at hday; omega)
  generalize remaining billion now a.paidUntilNanos = seconds at hseconds hshare
  calc burnAmount now a * (1440 * days)
      ≤ a.cyclesRemaining / seconds * cyclesBurnIntervalSeconds * (1440 * days) :=
        Nat.mul_le_mul_right _ hshare
    _ = a.cyclesRemaining / seconds * (86400 * days) := by
        unfold cyclesBurnIntervalSeconds
        ring
    _ ≤ a.cyclesRemaining / seconds * seconds := Nat.mul_le_mul_left _ hseconds
    _ ≤ a.cyclesRemaining := Nat.div_mul_le_self _ _

/-- A top-up takes nothing from what is left and does not bring the deadline forward. -/
theorem toppedUp_mono {a : RentalAgreement} (hwell : WellFormedAgreement a)
    (dailyCostCycles actualCycles : ℕ) (balance : Tokens) :
    a.cyclesRemaining ≤
        (toppedUpAgreement a a dailyCostCycles actualCycles balance).cyclesRemaining ∧
      a.paidUntilNanos ≤
        (toppedUpAgreement a a dailyCostCycles actualCycles balance).paidUntilNanos := by
  have hcreated := lt_two_pow_iff.mp hwell.created_lt
  have hpaid := lt_two_pow_iff.mp hwell.paidUntil_lt
  unfold RentalAgreement.cyclesRemaining
  rw [toppedUpAgreement_totalCyclesCreated, toppedUpAgreement_totalCyclesBurned,
    toppedUpAgreement_paidUntilNanos, newPaidUntilNanos_eq]
  exact ⟨Nat.sub_le_sub_right (le_min (Nat.le_add_right _ _) hcreated) _,
    le_min (Nat.le_add_right _ _) hpaid⟩

/-- An agreement that was stored at an earlier moment lost at most its minute's part of what was
left in every burn since, `days` before the deadline of that moment. -/
structure Paced (i : Principal) (days : ℕ) (start : RentalAgreement) (ended : List Ended)
    (c : Configuration) (stored : RentalAgreement) : Prop where
  found : c.state.canister.rentalAgreements[i]? = some stored
  paidUntil_le : start.paidUntilNanos ≤ stored.paidUntilNanos
  paced : c.state.canister.now + nanosPerDay * days ≤ start.paidUntilNanos →
    (1440 * days - 1) ^ (burns i ended).length * start.cyclesRemaining ≤
      (1440 * days) ^ (burns i ended).length * stored.cyclesRemaining

/-- One step keeps the pace. -/
theorem Paced.step {cycles : ℕ} {c c' : Configuration} {a : Label}
    (hc : (system cycles).Reachable c) (hnext : (system cycles).next c a = some c')
    (hkind : noUpgrade c a) {i : Principal} {days : ℕ} (hdays : 0 < days)
    {start stored : RentalAgreement} {ended : List Ended} (h : Paced i days start ended c stored) :
    ∃ more new, c'.trace = c.trace ++ more ∧ Paced i days start (ended ++ more) c' new := by
  have hwell := (sound_of_reachable hc).inv.consistent.agreement_wellFormed i stored h.found
  have hnow := now_mono hnext
  obtain ⟨more, htrace, hstep⟩ := agreementStep_of_next hc hnext i
  -- a step that burns nothing and lowers neither the cycles left nor the deadline
  have hunburned {new : RentalAgreement}
      (hnew : c'.state.canister.rentalAgreements[i]? = some new)
      (hleft : stored.cyclesRemaining ≤ new.cyclesRemaining)
      (hpaid : stored.paidUntilNanos ≤ new.paidUntilNanos) (hburns : burns i more = []) :
      Paced i days start (ended ++ more) c' new := by
    refine ⟨hnew, h.paidUntil_le.trans hpaid, fun hwithin ↦ ?_⟩
    rw [burns_append, hburns, List.append_nil]
    exact (h.paced (by omega)).trans (Nat.mul_le_mul_left _ hleft)
  cases hstep with
  | kept _ _ hsame htopUps hburns =>
    exact ⟨more, stored, htrace, hunburned (hsame.trans h.found) le_rfl le_rfl hburns⟩
  | granted _ _ new hnone => exact absurd (hnone.symm.trans h.found) (by simp)
  | toppedUp id _ copy balance amount blockIndex actualCycles conditions hcall hcopy hconditions
      hnew htopUps hburns =>
    obtain rfl : stored = copy := Option.some.inj (h.found.symm.trans hcopy)
    obtain ⟨hleft, hpaid⟩ := toppedUp_mono hwell conditions.dailyCostCycles actualCycles balance
    exact ⟨more, _, htrace, hunburned hnew hleft hpaid hburns⟩
  | burned _ copy burned hcopy hle hnew htopUps hburns =>
    obtain rfl : stored = copy := Option.some.inj (h.found.symm.trans hcopy)
    refine ⟨more, _, htrace, hnew, h.paidUntil_le, fun hwithin ↦ ?_⟩
    have hsince := h.paced (by omega)
    have hpart := (Nat.mul_le_mul_right _ hle).trans
      (burnAmount_mul_le hdays (by have := h.paidUntil_le; omega))
    have hleft : (burnedAgreement stored burned).cyclesRemaining =
        stored.cyclesRemaining - burned := by
      have hsum := (wellFormed_burned hwell (hle.trans (burnAmount_le _ _))).1
      unfold RentalAgreement.cyclesRemaining
      rw [hsum, Nat.sub_add_eq]
      rfl
    rw [burns_append, hburns, List.length_append, List.length_singleton, hleft]
    generalize 1440 * days = parts at hsince hpart ⊢
    generalize (burns i ended).length = passes at hsince ⊢
    have hpass : (parts - 1) * stored.cyclesRemaining ≤
        parts * (stored.cyclesRemaining - burned) := by
      rw [Nat.sub_mul, Nat.mul_sub, Nat.one_mul, Nat.mul_comm parts burned]
      exact Nat.sub_le_sub_left hpart _
    calc (parts - 1) ^ (passes + 1) * start.cyclesRemaining
        = (parts - 1) * ((parts - 1) ^ passes * start.cyclesRemaining) := by ring
      _ ≤ (parts - 1) * (parts ^ passes * stored.cyclesRemaining) :=
        Nat.mul_le_mul_left _ hsince
      _ = parts ^ passes * ((parts - 1) * stored.cyclesRemaining) := by ring
      _ ≤ parts ^ passes * (parts * (stored.cyclesRemaining - burned)) :=
        Nat.mul_le_mul_left _ hpass
      _ = parts ^ (passes + 1) * (stored.cyclesRemaining - burned) := by ring
  | repriced copy => cases hkind

/-- In every interleaving without an upgrade that ends `days` before the last of the days left is
over, every burn of the agreement leaves all but its minute's part of those days of the cycles
left. -/
theorem status_paced {cycles : ℕ} {c c' : Configuration} {i : Principal}
    {status : RentalAgreementStatus} {days : ℕ} (hc : (system cycles).Reachable c)
    (hstatus : c.state.canister.rentalAgreementStatus i = .ok status)
    (hrun : (system cycles).RunWithin (fun c a ↦ noUpgrade c a) c c') (hdays : 0 < days)
    (hwithin : c'.state.canister.now + nanosPerDay * days ≤
      c.state.canister.now + nanosPerDay * status.daysLeft) :
    ∃ ended later, c'.trace = c.trace ++ ended ∧
      c'.state.canister.rentalAgreementStatus i = .ok later ∧
      (1440 * days - 1) ^ (burns i ended).length * status.cyclesLeft ≤
        (1440 * days) ^ (burns i ended).length * later.cyclesLeft := by
  obtain ⟨start, hstart, htold⟩ := stored_of_status hstatus
  have hpaced : ∃ ended stored, c'.trace = c.trace ++ ended ∧
      Paced i days start ended c' stored := by
    refine hrun.induct (J := fun d ↦ ∃ ended stored, d.trace = c.trace ++ ended ∧
      Paced i days start ended d stored) ?_ ?_
    · exact ⟨[], start, (List.append_nil _).symm, hstart, le_rfl, fun _ ↦ le_rfl⟩
    · rintro u v label hu ⟨ended, stored, htrace, hpaced⟩ hkind hnext
      have hreach : (system cycles).Reachable u :=
        System.ReachableWithin.append hc (hu.mono fun _ _ _ ↦ trivial)
      obtain ⟨more, new, hmore, hpaced'⟩ := hpaced.step hreach hnext hkind hdays
      exact ⟨ended ++ more, new, by rw [hmore, htrace, List.append_assoc], hpaced'⟩
  obtain ⟨ended, stored, htrace, hpaced⟩ := hpaced
  obtain ⟨later, hlater, htold'⟩ := status_of_stored hpaced.found
  refine ⟨ended, later, htrace, hlater, ?_⟩
  rw [htold.cyclesLeft, htold'.cyclesLeft]
  refine hpaced.paced ?_
  have hleft : nanosPerDay * status.daysLeft ≤ start.paidUntilNanos - c.state.canister.now := by
    rw [htold.daysLeft]
    exact Nat.mul_div_le _ _
  have hpositive : 0 < nanosPerDay * days := Nat.mul_pos (by decide) hdays
  obtain ⟨_, _, -, hfollowed⟩ := followed_of_run hc hstart hrun
  have hsince := hfollowed.since_le
  omega

theorem status_paced_afterTopUp :
    ∃ ended later, afterTopUp.trace = afterGrant.trace ++ ended ∧
      afterTopUp.state.canister.rentalAgreementStatus aliceCreation.subnetId = .ok later ∧
      (1440 * 179 - 1) ^ (burns aliceCreation.subnetId ended).length * grantedStatus.cyclesLeft ≤
        (1440 * 179) ^ (burns aliceCreation.subnetId ended).length * later.cyclesLeft :=
  status_paced afterGrant_reachable afterGrant_status afterTopUp_run (by decide) (by decide +kernel)

end SubnetRental.Cycles
