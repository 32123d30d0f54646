import PsCore.Library.RankedMax
import PsCore.LeadJourneys

/-!
The progress of a lead. Only the upsert takes the higher of two statuses; the other writes are right because a lead
that is paid for is converted, and what is converted is not converted again.
-/

namespace PsCore

open Fallible RowTable TransitionRun RankedMax

structure Lead.Advances (before after : Lead) : Prop where
  funnelStatus : before.funnelStatus.rank ≤ after.funnelStatus.rank
  paymentStatus : before.paymentStatus.rank ≤ after.paymentStatus.rank

/-- A lead that nothing has been made of, as the storefront or an administrator has entered it. -/
structure Lead.IsNew (lead : Lead) : Prop where
  fields : lead.fieldErrors = []
  status : lead.status = .new
  unconverted : lead.convertedBooking = none
  funnelStatus : lead.funnelStatus.rank ≤ LeadFunnelStatus.booked.rank
  paymentStatus : lead.paymentStatus.rank ≤ LeadPaymentStatus.linkSent.rank

/-- What the operations keep of a lead. -/
structure Lead.OnTrack (lead : Lead) : Prop where
  fields : lead.fieldErrors = []
  funnelStatus : lead.funnelStatus.rank ≤ LeadFunnelStatus.paid.rank
  unconverted : lead.isConverted = false → lead.funnelStatus.rank ≤ LeadFunnelStatus.booked.rank
  paymentStatus : lead.paymentStatus.rank ≤ LeadPaymentStatus.linkSent.rank ∨ lead.paymentStatus = .paid

def AllOnTrack (leads : List Lead) : Prop :=
  ∀ (leadId : LeadId) (lead : Lead), leads[leadId]? = some lead → lead.OnTrack

theorem Lead.Advances.refl (lead : Lead) : lead.Advances lead :=
  ⟨Nat.le_refl _, Nat.le_refl _⟩

theorem Lead.Advances.trans (first second third : Lead) (one : first.Advances second) (two : second.Advances third) :
    first.Advances third :=
  ⟨Nat.le_trans one.funnelStatus two.funnelStatus, Nat.le_trans one.paymentStatus two.paymentStatus⟩

theorem Lead.IsNew.onTrack {lead : Lead} (isNew : lead.IsNew) : lead.OnTrack where
  fields := isNew.fields
  funnelStatus := Nat.le_trans isNew.funnelStatus (by decide)
  unconverted := fun _ => isNew.funnelStatus
  paymentStatus := .inl isNew.paymentStatus

theorem maxFunnelStatus_eq (current candidate : LeadFunnelStatus) :
    maxFunnelStatus current candidate = higher LeadFunnelStatus.rank current candidate := rfl

theorem maxPaymentStatus_eq (current candidate : LeadPaymentStatus) :
    maxPaymentStatus current candidate = higher LeadPaymentStatus.rank current candidate := rfl

section

variable {leads : List Lead} {lead : Lead} {now : Instant}

theorem Lead.OnTrack.paid_of_above (onTrack : lead.OnTrack) :
    lead.paymentStatus.rank ≤ LeadPaymentStatus.paid.rank := by
  rcases onTrack.paymentStatus with below | isPaid
  · exact Nat.le_trans below (by decide)
  · exact Nat.le_of_eq (congrArg LeadPaymentStatus.rank isPaid)

theorem merge_advances (event : LeadEvent) : lead.Advances (event.merge now lead) where
  funnelStatus := le_rank_higher LeadFunnelStatus.rank lead.funnelStatus event.funnelStatus
  paymentStatus := le_rank_higher LeadPaymentStatus.rank lead.paymentStatus event.paymentStatus

theorem LeadEvent.modest.pending {event : LeadEvent} (isModest : event.modest) :
    event.paymentStatus.rank ≤ LeadPaymentStatus.linkSent.rank := by
  rcases isModest.2 with status | status <;> rw [status] <;> decide

theorem Lead.OnTrack.merge (onTrack : lead.OnTrack) {event : LeadEvent} (isModest : event.modest)
    (fields : (event.merge now lead).fieldErrors = []) : (event.merge now lead).OnTrack where
  fields := fields
  funnelStatus := rank_higher_le _ onTrack.funnelStatus (Nat.le_trans isModest.1 (by decide))
  unconverted := fun unconverted => rank_higher_le _ (onTrack.unconverted unconverted) isModest.1
  paymentStatus := by
    rcases onTrack.paymentStatus with below | isPaid
    · exact .inl (rank_higher_le _ below isModest.pending)
    · refine .inr ?_
      have notHigher : ¬ lead.paymentStatus.rank < event.paymentStatus.rank := by
        rw [isPaid]
        exact Nat.not_lt.mpr (Nat.le_trans isModest.pending (by decide))
      exact (if_neg notHigher).trans isPaid

theorem LeadWrite.progress {next : List Lead} (write : LeadWrite leads next) (onTrack : AllOnTrack leads) :
    AllOnTrack next ∧ KeptBy Lead.Advances leads next := by
  have replaced : ∀ {leadId : LeadId} {before after : Lead}, leads[leadId]? = some before → after.OnTrack →
      before.Advances after →
      AllOnTrack (leads.set leadId after) ∧ KeptBy Lead.Advances leads (leads.set leadId after) := by
    intro leadId before after found afterOnTrack advances
    refine ⟨fun key lead present => ?_, .set Lead.Advances.refl found advances⟩
    rcases set_cases present with ⟨_, rfl⟩ | old
    · exact afterOnTrack
    · exact onTrack key lead old
  cases write with
  | @merged leadId lead now event found isModest clean =>
      exact replaced found ((onTrack leadId lead found).merge isModest (fieldErrors_of_clean clean))
        (merge_advances event)
  | added now event isModest clean =>
      refine ⟨fun key lead present => ?_, .append Lead.Advances.refl leads _⟩
      rcases append_cases present with old | ⟨_, rfl⟩
      · exact onTrack key lead old
      · exact {
          fields := fieldErrors_of_clean clean
          funnelStatus := rank_higher_le _ (Nat.le_trans isModest.1 (by decide)) (Nat.le_trans isModest.1 (by decide))
          unconverted := fun _ => rank_higher_le _ isModest.1 isModest.1
          paymentStatus := .inl (rank_higher_le _ isModest.pending isModest.pending)
        }
  | @linked leadId lead now bookingId booking slot found clean =>
      have before := onTrack leadId lead found
      exact replaced found
        ⟨fieldErrors_of_clean clean, before.funnelStatus, before.unconverted, before.paymentStatus⟩
        ⟨Nat.le_refl _, Nat.le_refl _⟩
  | @linkSent leadId lead now found unpaid clean =>
      have before := onTrack leadId lead found
      have below := before.paymentStatus.resolve_right unpaid
      exact replaced found
        ⟨fieldErrors_of_clean clean, before.funnelStatus, before.unconverted, .inl (Nat.le_refl _)⟩
        ⟨Nat.le_refl _, below⟩
  | @converted leadId lead now customer bookingId notes found unconverted =>
      have before := onTrack leadId lead found
      exact replaced found
        ⟨before.fields, Nat.le_of_ble_eq_true rfl, fun _ => Nat.le_refl _, before.paymentStatus⟩
        ⟨before.unconverted unconverted, Nat.le_refl _⟩
  | @paid leadId lead now bookingId found clean =>
      have before := onTrack leadId lead found
      exact replaced found
        ⟨fieldErrors_of_clean clean, Nat.le_refl _, (fun unconverted => by cases unconverted), .inr rfl⟩
        ⟨before.funnelStatus, before.paid_of_above⟩
  | @paidManually leadId lead now found isConverted =>
      have before := onTrack leadId lead found
      refine replaced found ⟨before.fields, Nat.le_refl _, fun unconverted => ?_, .inr rfl⟩
        ⟨before.funnelStatus, before.paid_of_above⟩
      have stays : (lead.paidManually now).isConverted = lead.isConverted := rfl
      rw [stays, isConverted] at unconverted
      cases unconverted

theorem LeadWrites.progress {next : List Lead} (writes : LeadWrites leads next) (onTrack : AllOnTrack leads) :
    AllOnTrack next ∧ KeptBy Lead.Advances leads next := by
  induction writes with
  | refl => exact ⟨onTrack, .refl Lead.Advances.refl leads⟩
  | tail _ write ih =>
      obtain ⟨nextOnTrack, kept⟩ := write.progress ih.1
      exact ⟨nextOnTrack, ih.2.trans Lead.Advances.trans kept⟩

end

theorem progress_run (settings : JourneySettings) (start : LeadBook) (ops : List JourneyOp)
    (onTrack : AllOnTrack start.leads) :
    AllOnTrack (runAll (LeadBook.step settings) start ops).leads ∧
      KeptBy Lead.Advances start.leads (runAll (LeadBook.step settings) start ops).leads := by
  induction ops generalizing start with
  | nil => exact ⟨onTrack, .refl Lead.Advances.refl _⟩
  | cons op rest ih =>
      have stepped := (LeadBook.step_writes settings start op).progress onTrack
      obtain ⟨restOnTrack, kept⟩ := ih (LeadBook.step settings start op) stepped.1
      exact ⟨restOnTrack, stepped.2.trans Lead.Advances.trans kept⟩

/-! The order of the events on one lead. -/

def Lead.statuses (lead : Lead) : LeadFunnelStatus × LeadPaymentStatus :=
  (lead.funnelStatus, lead.paymentStatus)

/-- A view, an addition to the cart, a started checkout or a linked booking, of the lead's mobile and service. -/
def JourneyOp.concerns (db : Db) (lead : Lead) : JourneyOp → Bool
  | .captureServiceView _ userId service | .markCartAdded _ userId service | .markCheckoutStarted _ userId service =>
      lead.requiredService == some service &&
      (db.directory.users[userId]?).any (·.phoneNumber == lead.primaryMobile)
  | .linkBookingToLead _ bookingId => (bookingParts db bookingId).any fun (booking, customer, _) =>
      lead.requiredService == some booking.service && customer.phoneNumber == lead.primaryMobile
  | _ => false

/-- What the operation tells the upsert; the view of an unverified customer tells nothing. -/
def JourneyOp.event (db : Db) : JourneyOp → Option LeadEvent
  | .captureServiceView _ userId service => (db.directory.users[userId]?).bind fun user =>
      if user.isVerified = false ∨ user.phoneNumber = "" then none
      else some (serviceEvent userId user service .serviceView (.visited, .notRequired))
  | .markCartAdded _ userId service => (db.directory.users[userId]?).map fun user =>
      serviceEvent userId user service .cart (.cartAdded, .notRequired)
  | .markCheckoutStarted _ userId service => (db.directory.users[userId]?).map fun user =>
      serviceEvent userId user service .checkout (.unpaid, .pending)
  | .linkBookingToLead _ bookingId => (bookingParts db bookingId).map fun (booking, customer, _) =>
      bookingEvent customer booking
  | _ => none

def LeadEvent.fits (event : LeadEvent) : Bool :=
  charFieldErrors "customer_name" 255 true event.customerName == []

/-- The leads after an event: a linking may stop between its two saves. -/
inductive EventOutcome (leads : List Lead) : Option LeadEvent → List Lead → Prop
  | untold : EventOutcome leads none leads
  | rejected {now : Instant} {event : LeadEvent} {error : ServiceError}
      (rejected : upsertLead now leads event = .error error) : EventOutcome leads (some event) leads
  | upserted {now : Instant} {event : LeadEvent} {leadId : LeadId} {saved : List Lead}
      (accepted : upsertLead now leads event = .ok (leadId, saved)) : EventOutcome leads (some event) saved
  | linked {now : Instant} {event : LeadEvent} {leadId : LeadId} {saved : List Lead} {lead : Lead}
      {bookingId : BookingId} {booking : Booking} {slot : TimeSlot}
      (accepted : upsertLead now leads event = .ok (leadId, saved)) (stored : saved[leadId]? = some lead)
      (clean : (lead.linked now bookingId booking slot).fullCleanErrors saved (some leadId) = []) :
      EventOutcome leads (some event) (saved.set leadId (lead.linked now bookingId booking slot))

/-- The lead among the others, as the events leave it; `saveable` is whether it passes its own cleaning. -/
structure Followed (start : Lead) (others : List Lead) (saveable : Prop) (leadId : LeadId) (leads : List Lead)
    (lead : Lead) : Prop where
  stored : leads[leadId]? = some lead
  around : otherLeads leads (some leadId) = others
  same : SameIdentity start lead
  fields : lead.fieldErrors = []
  saveable : lead.fullCleanErrors others none = [] ↔ saveable

section

variable {settings : JourneySettings} {book : LeadBook} {op : JourneyOp} {start lead : Lead} {others leads : List Lead}
  {saveable : Prop} {leadId : LeadId} {now : Instant} {event : LeadEvent}

theorem fullCleanErrors_others (leads : List Lead) (self : Option LeadId) (lead : Lead) :
    lead.fullCleanErrors leads self = lead.fullCleanErrors (otherLeads leads self) none := rfl

theorem otherLeads_set (leads : List Lead) (leadId : LeadId) (lead : Lead) :
    otherLeads (leads.set leadId lead) (some leadId) = otherLeads leads (some leadId) :=
  List.eraseIdx_set_eq

theorem merge_fields (fields : lead.fieldErrors = []) :
    (event.merge now lead).fieldErrors = [] ↔ event.fits = true := by
  simp only [Lead.fieldErrors, List.append_eq_nil_iff] at fields ⊢
  obtain ⟨⟨⟨⟨name, mobile⟩, city⟩, pincode⟩, slot⟩ := fields
  have named : lead.customerName ≠ "" := by
    intro blank
    simp [charFieldErrors, blank] at name
  have own : (event.merge now lead).customerName = orText event.customerName lead.customerName := by
    simp [LeadEvent.merge, orText, named]
  have rest : charFieldErrors "customer_name" 255 false (orText event.customerName lead.customerName) = [] ↔
      event.fits = true := by
    by_cases blank : event.customerName = ""
    · rw [orText, if_pos blank, name]
      simp [LeadEvent.fits, charFieldErrors, blank]
    · rw [orText, if_neg blank]
      simp [LeadEvent.fits, charFieldErrors, blank]
  rw [own, rest]
  exact ⟨fun errors => errors.1.1.1.1, fun fits => ⟨⟨⟨⟨fits, mobile⟩, city⟩, pincode⟩, slot⟩⟩

theorem merge_saveable (fields : lead.fieldErrors = []) :
    (event.merge now lead).fullCleanErrors others none = [] ↔
      lead.fullCleanErrors others none = [] ∧ event.fits = true := by
  have cleaned : (event.merge now lead).cleanErrors others none = lead.cleanErrors others none := rfl
  have unique : (event.merge now lead).uniqueErrors others none = lead.uniqueErrors others none := rfl
  simp only [Lead.fullCleanErrors, List.append_eq_nil_iff, merge_fields fields, cleaned, unique, fields, true_and]
  exact ⟨fun errors => ⟨⟨errors.1.2, errors.2⟩, errors.1.1⟩, fun errors => ⟨⟨errors.2, errors.1.1⟩, errors.1.2⟩⟩

theorem best_alone (found : leads[leadId]? = some lead) (isMatch : event.matches lead = true) {otherId : LeadId}
    {other : Lead} (foundOther : leads[otherId]? = some other) (otherMatch : event.matches other = true)
    (clean : other.Clean (otherLeads leads (some otherId))) : otherId = leadId ∧ other = lead := by
  obtain ⟨mobile, service, active⟩ := LeadEvent.matches_iff.mp isMatch
  obtain ⟨otherMobile, otherService, otherActive⟩ := LeadEvent.matches_iff.mp otherMatch
  by_cases same : leadId = otherId
  · subst same
    rw [found, Option.some.injEq] at foundOther
    exact ⟨rfl, foundOther.symm⟩
  · have apart := clean.alone otherActive lead (mem_otherLeads.mpr ⟨leadId, same, found⟩)
      (mobile.trans otherMobile.symm) active
    exact absurd (service.trans otherService.symm) apart.2

theorem clean_of_saveable {self : Option LeadId} (saves : lead.fullCleanErrors leads self = []) :
    lead.Clean (otherLeads leads self) := by
  simp only [Lead.fullCleanErrors, List.append_eq_nil_iff] at saves
  exact Lead.clean_iff.mp saves.1.2

theorem Followed.upsert_iff (followed : Followed start others saveable leadId leads lead) (now : Instant)
    (isMatch : event.matches lead = true) {otherId : LeadId} {saved : List Lead} :
    upsertLead now leads event = .ok (otherId, saved) ↔
      (saveable ∧ event.fits = true) ∧ otherId = leadId ∧ saved = leads.set leadId (event.merge now lead) := by
  have saves : (event.merge now lead).fullCleanErrors leads (some leadId) = [] ↔ saveable ∧ event.fits = true := by
    rw [fullCleanErrors_others, followed.around, merge_saveable followed.fields, followed.saveable]
  constructor
  · intro accepted
    rcases upsertLead_checked accepted with ⟨other, best, clean, rfl⟩ | ⟨absent, _, _, _⟩
    · obtain ⟨found, otherMatch⟩ := bestRow_some best
      have cleaned := clean_of_saveable clean
      obtain ⟨rfl, rfl⟩ := best_alone followed.stored isMatch found otherMatch ⟨cleaned.linked, cleaned.alone⟩
      exact ⟨saves.mp clean, rfl, rfl⟩
    · have unmatched := bestRow_none.mp absent lead (List.mem_of_getElem? followed.stored)
      rw [isMatch] at unmatched
      cases unmatched
  · rintro ⟨holds, isLead, isSaved⟩
    rw [isLead, isSaved]
    cases best : bestRow event.matches Lead.lastActivityAt leads with
    | none =>
        have unmatched := bestRow_none.mp best lead (List.mem_of_getElem? followed.stored)
        rw [isMatch] at unmatched
        cases unmatched
    | some row =>
        obtain ⟨bestId, other⟩ := row
        obtain ⟨found, otherMatch⟩ := bestRow_some best
        have clean : lead.Clean (otherLeads leads (some leadId)) := by
          have saves : lead.fullCleanErrors others none = [] := followed.saveable.mpr holds.1
          rw [followed.around]
          exact clean_of_saveable saves
        obtain ⟨isBest, isOther⟩ := best_alone found otherMatch followed.stored isMatch clean
        rw [← isBest, ← isOther] at best
        simp only [upsertLead, best, saveLead_iff.mpr ⟨saves.mpr holds, rfl⟩]
        rfl

/-- What one event makes of the followed lead. -/
theorem Followed.after_event (followed : Followed start others saveable leadId leads lead) [Decidable saveable]
    (isMatch : event.matches lead = true) {next : List Lead} (outcome : EventOutcome leads (some event) next) :
    ∃ after, Followed start others saveable leadId next after ∧
      after.statuses = if saveable ∧ event.fits = true then
        (maxFunnelStatus lead.funnelStatus event.funnelStatus, maxPaymentStatus lead.paymentStatus event.paymentStatus)
      else lead.statuses := by
  have inBounds := (List.getElem?_eq_some_iff.mp followed.stored).1
  have mergedStored (now : Instant) :
      (leads.set leadId (event.merge now lead))[leadId]? = some (event.merge now lead) :=
    List.getElem?_set_self inBounds
  have merged (now : Instant) (holds : saveable ∧ event.fits = true) :
      Followed start others saveable leadId (leads.set leadId (event.merge now lead)) (event.merge now lead) := {
    stored := mergedStored now
    around := (otherLeads_set leads leadId _).trans followed.around
    same := ⟨followed.same.primaryMobile, followed.same.requiredService, followed.same.status⟩
    fields := (merge_fields followed.fields).mpr holds.2
    saveable := by
      rw [merge_saveable followed.fields, followed.saveable]
      exact ⟨And.left, fun saves => ⟨saves, holds.2⟩⟩
  }
  cases outcome with
  | @rejected now _ error rejected =>
      have refused : ¬ (saveable ∧ event.fits = true) := by
        intro holds
        have accepted := (followed.upsert_iff now isMatch).mpr ⟨holds, rfl, rfl⟩
        rw [rejected] at accepted
        cases accepted
      exact ⟨lead, followed, (if_neg refused).symm⟩
  | @upserted now _ otherId saved accepted =>
      obtain ⟨holds, rfl, rfl⟩ := (followed.upsert_iff now isMatch).mp accepted
      exact ⟨_, merged now holds, (if_pos holds).symm⟩
  | @linked now _ otherId saved row bookingId booking slot accepted stored clean =>
      obtain ⟨holds, rfl, rfl⟩ := (followed.upsert_iff now isMatch).mp accepted
      have isRow := (mergedStored now).symm.trans stored
      rw [Option.some.injEq] at isRow
      subst isRow
      have before := merged now holds
      refine ⟨(event.merge now lead).linked now bookingId booking slot, ?_, (if_pos holds).symm⟩
      exact {
        stored := List.getElem?_set_self (by rw [List.length_set]; exact inBounds)
        around := (otherLeads_set _ otherId _).trans before.around
        same := ⟨before.same.primaryMobile, before.same.requiredService, before.same.status⟩
        fields := fieldErrors_of_clean clean
        saveable := by
          rw [fullCleanErrors_others, before.around] at clean
          exact ⟨fun _ => holds.1, fun _ => clean⟩
      }

theorem upserted_event {α : Type} {userId : UserId} {user : User}
    (capture : User → Except ServiceError (α × List Lead)) (answer : LeadId × List Lead → α)
    (known : book.db.directory.users[userId]? = some user)
    (captures : capture user = do
      let saved ← upsertLead now book.leads event
      pure (answer saved, saved.2)) :
    ∃ next, book.upserted userId capture = book.withLeads next ∧ EventOutcome book.leads (some event) next := by
  simp only [LeadBook.upserted, known, captures]
  cases upserted : upsertLead now book.leads event with
  | error error => exact ⟨_, rfl, .rejected upserted⟩
  | ok saved => exact ⟨_, rfl, .upserted upserted⟩

theorem bind_pure_pair {ε α β : Type} (program : Except ε (α × β)) :
    (do
      let saved ← program
      pure (saved.1, saved.2)) = program := by
  cases program <;> rfl

theorem serviceEvent_matches {userId : UserId} {user : User} {service : ServiceId} {source : LeadSource}
    {statuses : LeadFunnelStatus × LeadPaymentStatus} (active : lead.isActive = true)
    (ofService : lead.requiredService = some service) (ofUser : user.phoneNumber = lead.primaryMobile) :
    (serviceEvent userId user service source statuses).matches lead = true :=
  LeadEvent.matches_iff.mpr ⟨ofUser.symm, ofService, active⟩

theorem step_event (settings : JourneySettings) (active : lead.isActive = true)
    (concerned : op.concerns book.db lead = true) :
    ∃ next, LeadBook.step settings book op = book.withLeads next ∧ EventOutcome book.leads (op.event book.db) next ∧
      ∀ event, op.event book.db = some event → event.matches lead = true := by
  cases op with
  | captureServiceView now userId service =>
      simp only [JourneyOp.concerns, Bool.and_eq_true, beq_iff_eq, Option.any_eq_true] at concerned
      obtain ⟨ofService, user, known, ofUser⟩ := concerned
      simp only [JourneyOp.event, known, Option.bind_some]
      by_cases unverified : user.isVerified = false ∨ user.phoneNumber = ""
      · rw [if_pos unverified]
        refine ⟨book.leads, ?_, .untold, fun event told => by cases told⟩
        simp only [LeadBook.step, LeadBook.upserted, known, captureAuthenticatedServiceView, unverified]
        rfl
      · rw [if_neg unverified]
        have captures : captureAuthenticatedServiceView now book.leads userId user service = (do
            let saved ← upsertLead now book.leads
              (serviceEvent userId user service .serviceView (.visited, .notRequired))
            pure (some saved.1, saved.2)) := if_neg unverified
        obtain ⟨next, stepped, outcome⟩ := upserted_event
          (captureAuthenticatedServiceView now book.leads userId · service) (fun saved => some saved.1) known captures
        refine ⟨next, stepped, outcome, fun event told => ?_⟩
        cases told
        exact serviceEvent_matches active ofService ofUser
  | markCartAdded now userId service =>
      simp only [JourneyOp.concerns, Bool.and_eq_true, beq_iff_eq, Option.any_eq_true] at concerned
      obtain ⟨ofService, user, known, ofUser⟩ := concerned
      simp only [JourneyOp.event, known, Option.map_some]
      have captures : markCartAdded now book.leads userId user service = (do
          let saved ← upsertLead now book.leads (serviceEvent userId user service .cart (.cartAdded, .notRequired))
          pure (saved.1, saved.2)) := (bind_pure_pair _).symm
      obtain ⟨next, stepped, outcome⟩ := upserted_event
        (markCartAdded now book.leads userId · service) Prod.fst known captures
      refine ⟨next, stepped, outcome, fun event told => ?_⟩
      cases told
      exact serviceEvent_matches active ofService ofUser
  | markCheckoutStarted now userId service =>
      simp only [JourneyOp.concerns, Bool.and_eq_true, beq_iff_eq, Option.any_eq_true] at concerned
      obtain ⟨ofService, user, known, ofUser⟩ := concerned
      simp only [JourneyOp.event, known, Option.map_some]
      have captures : markCheckoutStarted now book.leads userId user service = (do
          let saved ← upsertLead now book.leads (serviceEvent userId user service .checkout (.unpaid, .pending))
          pure (saved.1, saved.2)) := (bind_pure_pair _).symm
      obtain ⟨next, stepped, outcome⟩ := upserted_event
        (markCheckoutStarted now book.leads userId · service) Prod.fst known captures
      refine ⟨next, stepped, outcome, fun event told => ?_⟩
      cases told
      exact serviceEvent_matches active ofService ofUser
  | linkBookingToLead now bookingId =>
      simp only [JourneyOp.concerns, Option.any_eq_true, Bool.and_eq_true, beq_iff_eq] at concerned
      obtain ⟨⟨booking, customer, slot⟩, parts, ofService, ofUser⟩ := concerned
      simp only [JourneyOp.event, parts, Option.map_some]
      refine ⟨_, by simp only [LeadBook.step, LeadOp.step, parts]; rfl, ?_, fun event told => ?_⟩
      · rcases linkBookingToLead_cases now book.db.leads customer slot bookingId booking with
          ⟨error, rejected, stopped⟩ | ⟨leadId, saved, row, upserted, stored, ⟨_, error, stopped⟩ | ⟨clean, linked⟩⟩
        · rw [stopped]
          exact .rejected rejected
        · rw [stopped]
          exact .upserted upserted
        · rw [linked]
          exact .linked upserted stored clean
      · cases told
        exact LeadEvent.matches_iff.mpr ⟨ofUser.symm, ofService, active⟩
  | createBooking | sendLeadPaymentLink | convertLeadToWorkOrder | createAdvancePaymentOrder | verifyRazorpayPayment
  | dispatchWebhook | recordManualLeadPayment => cases concerned

/-- The events that get past the cleaning of a lead. -/
def heardEvents (saveable : Prop) [Decidable saveable] (db : Db) (ops : List JourneyOp) : List LeadEvent :=
  ops.filterMap fun op => (op.event db).filter fun event => decide saveable && event.fits

theorem concerns_same (same : SameIdentity start lead) (db : Db) (op : JourneyOp) :
    op.concerns db lead = op.concerns db start := by
  cases op <;> simp only [JourneyOp.concerns, same.primaryMobile, same.requiredService]

theorem concerns_withLeads (book : LeadBook) (next : List Lead) (lead : Lead) (op : JourneyOp) :
    op.concerns (book.withLeads next).db lead = op.concerns book.db lead := by
  cases op <;> rfl

theorem heardEvents_withLeads [Decidable saveable] (book : LeadBook) (next : List Lead) (ops : List JourneyOp) :
    heardEvents saveable (book.withLeads next).db ops = heardEvents saveable book.db ops := by
  have sameEvent : ∀ op : JourneyOp, op.event (book.withLeads next).db = op.event book.db := by
    intro op
    cases op <;> rfl
  simp only [heardEvents, sameEvent]

theorem Followed.statuses_run [Decidable saveable] {ops : List JourneyOp}
    (followed : Followed start others saveable leadId book.leads lead) (active : start.isActive = true)
    (concerned : ∀ op ∈ ops, op.concerns book.db start = true) :
    ((runAll (LeadBook.step settings) book ops).leads[leadId]?).map Lead.statuses = some
      (((heardEvents saveable book.db ops).map LeadEvent.funnelStatus).foldl (higher LeadFunnelStatus.rank)
          lead.funnelStatus,
        ((heardEvents saveable book.db ops).map LeadEvent.paymentStatus).foldl (higher LeadPaymentStatus.rank)
          lead.paymentStatus) := by
  induction ops generalizing book lead with
  | nil =>
      rw [runAll_nil, followed.stored]
      rfl
  | cons op rest ih =>
      have leadActive : lead.isActive = true := followed.same.isActive.trans active
      have ofLead : op.concerns book.db lead = true := by
        rw [concerns_same followed.same]
        exact concerned op (by simp)
      obtain ⟨next, stepped, outcome, matched⟩ := step_event settings leadActive ofLead
      have restConcerned : ∀ other ∈ rest, other.concerns (book.withLeads next).db start = true := by
        intro other member
        rw [concerns_withLeads]
        exact concerned other (by simp [member])
      have continued (after : Lead) (afterFollowed : Followed start others saveable leadId next after) :=
        ih (show Followed start others saveable leadId (book.withLeads next).leads after from afterFollowed)
          restConcerned
      rw [runAll_cons, stepped]
      cases told : op.event book.db with
      | none =>
          rw [told] at outcome
          cases outcome
          rw [continued lead followed, heardEvents_withLeads]
          simp only [heardEvents, List.filterMap_cons, told, Option.filter_none]
      | some event =>
          rw [told] at outcome
          obtain ⟨after, afterFollowed, statuses⟩ := followed.after_event (matched event told) outcome
          rw [continued after afterFollowed, heardEvents_withLeads]
          simp only [Lead.statuses] at statuses
          by_cases heard : saveable ∧ event.fits = true
          · rw [if_pos heard, Prod.mk.injEq] at statuses
            have kept : (some event).filter (fun event => decide saveable && event.fits) = some event := by
              simp [heard.1, heard.2]
            simp only [heardEvents, List.filterMap_cons, told, kept, List.map_cons, List.foldl_cons, statuses.1,
              statuses.2, maxFunnelStatus_eq, maxPaymentStatus_eq]
          · rw [if_neg heard, Prod.mk.injEq] at statuses
            have dropped : (some event).filter (fun event => decide saveable && event.fits) = none := by
              simpa [Option.filter] using heard
            simp only [heardEvents, List.filterMap_cons, told, dropped, statuses.1, statuses.2]

end

theorem LeadFunnelStatus.rank_distinct (first second : LeadFunnelStatus) (same : first.rank = second.rank) :
    first = second := by
  cases first <;> cases second <;> first | rfl | cases same

theorem LeadPaymentStatus.rank_distinct (first second : LeadPaymentStatus) (same : first.rank = second.rank) :
    first = second := by
  cases first <;> cases second <;> first | rfl | cases same

theorem statuses_reordered {settings : JourneySettings} {book : LeadBook} {leadId : LeadId} {lead : Lead}
    {events reordered : List JourneyOp} (stored : book.leads[leadId]? = some lead) (fields : lead.fieldErrors = [])
    (active : lead.isActive = true) (concerned : ∀ op ∈ events, op.concerns book.db lead = true)
    (same : events.Perm reordered) :
    ((runAll (LeadBook.step settings) book events).leads[leadId]?).map Lead.statuses =
      ((runAll (LeadBook.step settings) book reordered).leads[leadId]?).map Lead.statuses := by
  have followed : Followed lead (otherLeads book.leads (some leadId))
      (lead.fullCleanErrors (otherLeads book.leads (some leadId)) none = []) leadId book.leads lead := {
    stored := stored
    around := rfl
    same := ⟨rfl, rfl, rfl⟩
    fields := fields
    saveable := Iff.rfl
  }
  rw [followed.statuses_run active concerned,
    followed.statuses_run active fun op member => concerned op (same.mem_iff.mpr member)]
  have heard := same.filterMap fun op => (op.event book.db).filter fun event =>
    decide (lead.fullCleanErrors (otherLeads book.leads (some leadId)) none = []) && event.fits
  have funnel := foldl_higher_perm LeadFunnelStatus.rank_distinct (heard.map LeadEvent.funnelStatus) lead.funnelStatus
  have payment := foldl_higher_perm LeadPaymentStatus.rank_distinct (heard.map LeadEvent.paymentStatus)
    lead.paymentStatus
  exact congrArg some (Prod.ext funnel payment)

/-- Along every run from new leads no lead falls back, and events on one active lead may come in any order. -/
theorem leadProgress_run (settings : JourneySettings) {start : LeadBook} (ops : List JourneyOp)
    (areNew : ∀ lead ∈ start.leads, lead.IsNew) :
    (∀ earlier later, ops = earlier ++ later →
      KeptBy Lead.Advances (runAll (LeadBook.step settings) start earlier).leads
        (runAll (LeadBook.step settings) start ops).leads) ∧
    ∀ (leadId : LeadId) (lead : Lead) (events reordered : List JourneyOp),
      (runAll (LeadBook.step settings) start ops).leads[leadId]? = some lead → lead.isActive = true →
      (∀ op ∈ events, op.concerns (runAll (LeadBook.step settings) start ops).db lead = true) →
      events.Perm reordered →
      ((runAll (LeadBook.step settings) start (ops ++ events)).leads[leadId]?).map Lead.statuses =
        ((runAll (LeadBook.step settings) start (ops ++ reordered)).leads[leadId]?).map Lead.statuses := by
  have onTrackAtStart : AllOnTrack start.leads := fun leadId lead present =>
    (areNew lead (List.mem_of_getElem? present)).onTrack
  constructor
  · rintro earlier later rfl
    rw [runAll_append]
    exact (progress_run settings _ later (progress_run settings start earlier onTrackAtStart).1).2
  · intro leadId lead events reordered stored active concerned same
    have onTrack := (progress_run settings start ops onTrackAtStart).1 leadId lead stored
    rw [runAll_append, runAll_append]
    exact statuses_reordered stored onTrack.fields active concerned same

def paidJourney : List JourneyOp := [
  .captureServiceView sampleNow 0 0,
  .sendLeadPaymentLink sampleNow 0 .advance .sms (.error "unreachable"),
  .createBooking sampleNow 0 { serviceId := 0, addressId := 0, slotId := 0, quantity := 1 },
  .createAdvancePaymentOrder 0 0 "payment-key-1" (.ok "order_1"),
  .verifyRazorpayPayment sampleNow "order_1" "pay_1" (makePaymentSignature sampleSettings "order_1" "pay_1") none,
  .convertLeadToWorkOrder sampleNow 0 none none ""]

def callerEvents : List JourneyOp := [
  .captureServiceView sampleNow 1 0,
  .markCheckoutStarted sampleNow 1 0,
  .markCartAdded sampleNow 1 0]

theorem leadProgress_run_paid :
    (∀ earlier later, paidJourney = earlier ++ later →
      KeptBy Lead.Advances (runAll (LeadBook.step sampleJourneySettings) enteredLeads earlier).leads
        (runAll (LeadBook.step sampleJourneySettings) enteredLeads paidJourney).leads) ∧
    (runAll (LeadBook.step sampleJourneySettings) enteredLeads paidJourney).leads.map Lead.statuses =
      [(.paid, .paid), (.visited, .notRequired)] ∧
    ((runAll (LeadBook.step sampleJourneySettings) enteredLeads (paidJourney ++ callerEvents)).leads[1]?).map
        Lead.statuses =
      ((runAll (LeadBook.step sampleJourneySettings) enteredLeads (paidJourney ++ callerEvents.reverse)).leads[1]?).map
        Lead.statuses := by
  have areNew : ∀ lead ∈ enteredLeads.leads, lead.IsNew := by
    intro lead member
    simp only [enteredLeads, LeadBook.leads, List.mem_cons, List.not_mem_nil, or_false] at member
    rcases member with rfl | rfl
    · exact ⟨by decide, rfl, rfl, by decide, by decide⟩
    · exact ⟨by decide, rfl, rfl, by decide, by decide⟩
  have stored : (runAll (LeadBook.step sampleJourneySettings) enteredLeads paidJourney).leads[1]? =
      some callerLead := by
    decide +kernel
  obtain ⟨advancing, anyOrder⟩ := leadProgress_run sampleJourneySettings paidJourney areNew
  exact ⟨advancing, by decide +kernel, anyOrder 1 callerLead callerEvents callerEvents.reverse stored (by decide)
    (by decide +kernel) (List.reverse_perm callerEvents).symm⟩

end PsCore
