import SubnetRental.Canister.Agreements

/-!
# The queries about agreements

`list_rental_agreements` and `rental_agreement_status` read the state of the canister between two
segments. The status of an agreement tells the cycles that are left, the full days that are paid
for, and in words whether the user has to top up.
-/

set_option autoImplicit false
set_option relaxedAutoImplicit false

namespace SubnetRental.Canister

/-- `RentalAgreementStatus` -/
structure RentalAgreementStatus where
  description : String
  cyclesLeft : ℕ
  daysLeft : ℕ
  deriving DecidableEq

def calculateDaysRemaining (paidUntilNanos nowNanos : ℕ) : ℕ :=
  if paidUntilNanos ≤ nowNanos then 0
  else
    let remainingNanos := paidUntilNanos - nowNanos
    remainingNanos / (secondsPerDay * billion)

/-- The description of an agreement that is past due. -/
def pastDue : String := "PAST DUE: This rental agreement needs to be topped up to continue."

/-- The description of an agreement that is covered for at most 30 days. -/
def warning (daysLeft : ℕ) : String :=
  "WARNING: This rental agreement is only covered for " ++ toString daysLeft ++
    " more days. Please top up the subnet."

def covered (daysLeft : ℕ) : String :=
  "OK: This rental agreement is covered for " ++ toString daysLeft ++ " more days."

namespace State

def listRentalAgreements (s : State) : List RentalAgreement :=
  s.iterRentalAgreements.map Prod.snd

def rentalAgreementStatus (s : State) (subnetId : Principal) :
    Except String RentalAgreementStatus :=
  match s.getRentalAgreement subnetId with
  | none => .error "Rental agreement not found"
  | some rentalAgreement =>
    let nowNanos := s.now
    let paidUntilNanos := rentalAgreement.paidUntilNanos
    let cyclesLeft := rentalAgreement.cyclesRemaining
    let daysLeft := calculateDaysRemaining paidUntilNanos nowNanos
    let description :=
      if rentalAgreement.paidUntilNanos < nowNanos then pastDue
      else if daysLeft ≤ 30 then warning daysLeft
      else covered daysLeft
    .ok { description, cyclesLeft, daysLeft }

end State

/-! ### Descriptions -/

theorem head_append (first second third : String) :
    (first ++ second ++ third).toList.head? =
      first.toList.head?.or (second ++ third).toList.head? := by
  rw [String.append_assoc, String.toList_append, List.head?_append]

theorem head_pastDue : pastDue.toList.head? = some 'P' := by rfl

theorem head_warning (daysLeft : ℕ) : (warning daysLeft).toList.head? = some 'W' :=
  (head_append _ _ _).trans rfl

theorem head_covered (daysLeft : ℕ) : (covered daysLeft).toList.head? = some 'O' :=
  (head_append _ _ _).trans rfl

/-- The description says past due exactly when the deadline has passed. -/
theorem description_eq_pastDue_iff (late : Prop) [Decidable late] (daysLeft : ℕ) :
    (if late then pastDue else if daysLeft ≤ 30 then warning daysLeft else covered daysLeft) =
      pastDue ↔ late := by
  have hdistinct {other : String} {first : Char} (hfirst : other.toList.head? = some first)
      (hne : first ≠ 'P') : other ≠ pastDue := by
    rintro rfl
    exact hne (Option.some.inj (hfirst.symm.trans head_pastDue))
  split_ifs with hlate hfew
  · exact iff_of_true rfl hlate
  · exact iff_of_false (hdistinct (head_warning daysLeft) (by decide)) hlate
  · exact iff_of_false (hdistinct (head_covered daysLeft) (by decide)) hlate

end SubnetRental.Canister
