import Mathlib.Data.List.Chain
import PsCore.LeadJourneys

/-!
The payment links that leads are sent. A link is made where none is open for the same part of the price, the customer
is told of it once, and a lead that has paid is sent none any more.
-/

namespace PsCore

open Fallible TransitionRun Relation

/-- The request that made a link, and the lead as it was then. -/
structure LinkMade where
  leadId : LeadId
  lead : Lead
  scope : PaymentScope
  channel : LinkChannel
  reply : ProviderReply
  madeAt : Instant

def linkProviderId (leadId : LeadId) (scope : PaymentScope) : String :=
  "lead-link-" ++ toString leadId ++ "-" ++ scope.lower

def LinkMade.providerId (made : LinkMade) : String :=
  linkProviderId made.leadId made.scope

def LinkMade.request (made : LinkMade) : JourneyOp :=
  .sendLeadPaymentLink made.madeAt made.leadId made.scope made.channel made.reply

def JourneySettings.linkTerm (settings : JourneySettings) : Nat :=
  settings.leadPaymentLinkExpiryHours * hour

def LinkMade.link (settings : JourneySettings) (made : LinkMade) : PaymentLink where
  providerId := made.providerId
  url := leadPaymentUrl settings made.leadId made.lead
  expiresAt := some (made.madeAt + settings.linkTerm)

def LinkMade.amount (made : LinkMade) : Money :=
  (made.scope.amount made.lead).getD 0

def LinkMade.notification (settings : JourneySettings) (made : LinkMade) : LinkNotification :=
  linkNotification settings made.madeAt made.leadId made.lead (made.link settings) made.scope made.amount made.channel
    made.reply

/-- By the answer of the request; neither the stored link nor the notifications are looked at. -/
def JourneyOp.linksMade (settings : JourneySettings) (book : LeadBook) : JourneyOp → List LinkMade
  | .sendLeadPaymentLink now leadId scope channel reply =>
      match book.leads[leadId]?, PsCore.sendLeadPaymentLink settings now leadId scope channel reply book with
      | some lead, .ok (true, _) => [⟨leadId, lead, scope, channel, reply, now⟩]
      | _, _ => []
  | .captureServiceView .. | .markCartAdded .. | .markCheckoutStarted .. | .createBooking .. | .linkBookingToLead ..
  | .convertLeadToWorkOrder .. | .createAdvancePaymentOrder .. | .verifyRazorpayPayment .. | .dispatchWebhook ..
  | .recordManualLeadPayment .. => []

def linksMade (settings : JourneySettings) : LeadBook → List JourneyOp → List LinkMade
  | _, [] => []
  | book, op :: rest => op.linksMade settings book ++ linksMade settings (book.step settings op) rest

structure LinkMade.Grounded (settings : JourneySettings) (book : LeadBook) (made : LinkMade) : Prop where
  found : book.leads[made.leadId]? = some made.lead
  unpaid : made.lead.paymentStatus ≠ .paid
  priced : made.scope.amount made.lead = some made.amount ∧ 0 < made.amount
  closed : (book.links made.leadId).stillOpen made.madeAt made.providerId = false

structure LinkMade.Left (settings : JourneySettings) (book : LeadBook) (made : LinkMade) (next : LeadBook) : Prop where
  links : next.links = fun other => if other = made.leadId then made.link settings else book.links other
  told : next.linkNotifications = book.linkNotifications ++ [made.notification settings]

section

variable {settings : JourneySettings} {book : LeadBook}

theorem sendLeadPaymentLink_cases {now : Instant} {leadId : LeadId} {scope : PaymentScope} {channel : LinkChannel}
    {reply : ProviderReply} {next : LeadBook} {answer : Bool}
    (accepted : sendLeadPaymentLink settings now leadId scope channel reply book = .ok (answer, next)) :
    (answer = false ∧ next = book ∧ (book.links leadId).stillOpen now (linkProviderId leadId scope) = true) ∨
    ∃ lead, answer = true ∧
      (⟨leadId, lead, scope, channel, reply, now⟩ : LinkMade).Grounded settings book ∧
      (⟨leadId, lead, scope, channel, reply, now⟩ : LinkMade).Left settings book next := by
  simp only [sendLeadPaymentLink, accepted_bind, accepted_orRaise, accepted_require] at accepted
  obtain ⟨lead, found, _, unpaid, amount, priced, sent⟩ := accepted
  obtain ⟨isAmount, positive⟩ := Option.filter_eq_some_iff.mp priced
  split at sent
  · rename_i open_
    cases sent
    exact .inl ⟨rfl, rfl, open_⟩
  · rename_i closed
    have same : (⟨leadId, lead, scope, channel, reply, now⟩ : LinkMade).amount = amount := by
      simp only [LinkMade.amount, isAmount, Option.getD_some]
    simp only [accepted_bind, accepted_require, accepted_pure, saveLead_iff, Prod.mk.injEq] at sent
    obtain ⟨_, _, _, _, rfl, rfl⟩ := sent
    refine .inr ⟨lead, rfl, ⟨found, unpaid, ?_, Bool.eq_false_iff.mpr closed⟩, rfl, ?_⟩
    · rw [same]
      exact ⟨isAmount, of_decide_eq_true positive⟩
    · rw [LinkMade.notification, same]
      rfl

theorem upserted_links {α : Type} {userId : UserId} (capture : User → Except ServiceError (α × List Lead)) :
    (book.upserted userId capture).links = book.links ∧
      (book.upserted userId capture).linkNotifications = book.linkNotifications := by
  unfold LeadBook.upserted
  split
  · exact ⟨rfl, rfl⟩
  · exact ⟨rfl, rfl⟩

/-- What an operation has to do with payment links. -/
theorem linksMade_cases (settings : JourneySettings) (book : LeadBook) (op : JourneyOp) :
    (op.linksMade settings book = [] ∧ (book.step settings op).links = book.links ∧
      (book.step settings op).linkNotifications = book.linkNotifications) ∨
    ∃ made : LinkMade, op = made.request ∧ op.linksMade settings book = [made] ∧ made.Grounded settings book ∧
      made.Left settings book (book.step settings op) := by
  cases op with
  | sendLeadPaymentLink now leadId scope channel reply =>
      simp only [JourneyOp.linksMade, LeadBook.step]
      cases outcome : sendLeadPaymentLink settings now leadId scope channel reply book with
      | error error =>
          refine .inl ⟨?_, rfl, rfl⟩
          split
          · rename_i accepted
            cases accepted
          · rfl
      | ok result =>
          obtain ⟨answer, next⟩ := result
          rcases sendLeadPaymentLink_cases outcome with ⟨rfl, rfl, _⟩ | ⟨lead, rfl, grounded, left⟩
          · refine .inl ⟨?_, rfl, rfl⟩
            split
            · rename_i accepted
              cases accepted
            · rfl
          · refine .inr ⟨⟨leadId, lead, scope, channel, reply, now⟩, rfl, ?_, grounded, left⟩
            simp only [grounded.found]
  | captureServiceView now userId service => exact .inl ⟨rfl, upserted_links _⟩
  | markCartAdded now userId service => exact .inl ⟨rfl, upserted_links _⟩
  | markCheckoutStarted now userId service => exact .inl ⟨rfl, upserted_links _⟩
  | _ => exact .inl ⟨rfl, rfl, rfl⟩

theorem leadPaymentUrl_ne_empty (settings : JourneySettings) (leadId : LeadId) (lead : Lead) :
    leadPaymentUrl settings leadId lead ≠ "" := by
  intro empty
  have characters := congrArg String.length empty
  unfold leadPaymentUrl at characters
  simp only at characters
  split at characters
  · simp [String.length_append] at characters
  · simp [String.length_append] at characters

theorem PaymentLink.stillOpen_of {link : PaymentLink} {now expiry : Instant} {providerId : String}
    (expires : link.expiresAt = some expiry) (early : now < expiry) (hasUrl : link.url ≠ "")
    (own : link.providerId = providerId) : link.stillOpen now providerId = true := by
  simp [PaymentLink.stillOpen, expires, early, hasUrl, own]

theorem LinkMade.link_standing {made : LinkMade} {now : Instant} (early : now < made.madeAt + settings.linkTerm) :
    (made.link settings).stillOpen now made.providerId = true :=
  PaymentLink.stillOpen_of rfl early (leadPaymentUrl_ne_empty settings made.leadId made.lead) rfl

end

def HasPaid (leads : List Lead) (leadId : LeadId) : Prop :=
  ∃ lead, leads[leadId]? = some lead ∧ lead.paymentStatus = .paid

section

variable {leads next : List Lead} {leadId : LeadId}

theorem HasPaid.set {other : LeadId} {lead written : Lead} (paid : HasPaid leads leadId)
    (found : leads[other]? = some lead) (keeps : lead.paymentStatus = .paid → written.paymentStatus = .paid) :
    HasPaid (leads.set other written) leadId := by
  obtain ⟨own, isOwn, isPaid⟩ := paid
  by_cases same : other = leadId
  · subst same
    rw [found] at isOwn
    cases isOwn
    exact ⟨written, List.getElem?_set_self (List.getElem?_eq_some_iff.mp found).1, keeps isPaid⟩
  · exact ⟨own, (List.getElem?_set_ne same).trans isOwn, isPaid⟩

theorem merge_paid {now : Instant} {event : LeadEvent} {lead : Lead} (isModest : event.modest)
    (paid : lead.paymentStatus = .paid) : (event.merge now lead).paymentStatus = .paid := by
  show maxPaymentStatus lead.paymentStatus event.paymentStatus = .paid
  rcases isModest.2 with same | same
  · rw [paid, same]
    rfl
  · rw [paid, same]
    rfl

theorem HasPaid.write (paid : HasPaid leads leadId) (write : LeadWrite leads next) : HasPaid next leadId := by
  cases write with
  | merged now event found isModest clean => exact paid.set found (merge_paid isModest)
  | added now event isModest clean =>
      obtain ⟨own, isOwn, isPaid⟩ := paid
      exact ⟨own, List.getElem?_append_left (List.getElem?_eq_some_iff.mp isOwn).1 ▸ isOwn, isPaid⟩
  | linked now bookingId booking slot found clean => exact paid.set found id
  | linkSent now found unpaid clean => exact paid.set found fun isPaid => absurd isPaid unpaid
  | converted now customer bookingId notes found unconverted => exact paid.set found id
  | paid now bookingId found clean => exact paid.set found fun _ => rfl
  | paidManually now found isConverted => exact paid.set found fun _ => rfl

theorem HasPaid.writes (paid : HasPaid leads leadId) (writes : LeadWrites leads next) : HasPaid next leadId := by
  induction writes with
  | refl => exact paid
  | tail _ write ih => exact ih.write write

end

/-! Links over time. -/

/-- Of two links for the same part of the price the later one is made when the earlier one has expired. -/
def LinkMade.Apart (settings : JourneySettings) (earlier later : LinkMade) : Prop :=
  earlier.scope = later.scope → earlier.madeAt + settings.linkTerm ≤ later.madeAt

def linksOf (settings : JourneySettings) (start : LeadBook) (ops : List JourneyOp) (leadId : LeadId) : List LinkMade :=
  (linksMade settings start ops).filter (·.leadId = leadId)

/-- The link that a lead has, where some have been made since the start. -/
def currentLink (settings : JourneySettings) (start : LeadBook) (leadId : LeadId) (made : List LinkMade) : PaymentLink :=
  (made.getLast?.map (LinkMade.link settings)).getD (start.links leadId)

structure LinksKept (settings : JourneySettings) (start : LeadBook) (ops : List JourneyOp) : Prop where
  answered : ∀ earlier now leadId scope channel reply later made next,
    ops = earlier ++ .sendLeadPaymentLink now leadId scope channel reply :: later →
    sendLeadPaymentLink settings now leadId scope channel reply (runAll (LeadBook.step settings) start earlier) =
      .ok (made, next) →
    (made = true ↔ ((runAll (LeadBook.step settings) start earlier).links leadId).stillOpen now
      (linkProviderId leadId scope) = false)
  stored : ∀ leadId, (runAll (LeadBook.step settings) start ops).links leadId =
    currentLink settings start leadId (linksOf settings start ops leadId)
  told : (runAll (LeadBook.step settings) start ops).linkNotifications =
    start.linkNotifications ++ (linksMade settings start ops).map (LinkMade.notification settings)
  grounded : ∀ made ∈ linksMade settings start ops, ∃ earlier later, ops = earlier ++ made.request :: later ∧
    made.Grounded settings (runAll (LeadBook.step settings) start earlier)
  spaced : ∀ leadId, (linksOf settings start ops leadId).IsChain (LinkMade.Apart settings)
  spent : ∀ earlier later leadId, ops = earlier ++ later →
    HasPaid (runAll (LeadBook.step settings) start earlier).leads leadId →
      ∀ made ∈ linksMade settings (runAll (LeadBook.step settings) start earlier) later, made.leadId ≠ leadId

section

variable {settings : JourneySettings} {book : LeadBook} {leadId : LeadId}

theorem links_answered {now : Instant} {scope : PaymentScope} {channel : LinkChannel} {reply : ProviderReply}
    {next : LeadBook} {made : Bool}
    (accepted : sendLeadPaymentLink settings now leadId scope channel reply book = .ok (made, next)) :
    made = true ↔ (book.links leadId).stillOpen now (linkProviderId leadId scope) = false := by
  rcases sendLeadPaymentLink_cases accepted with ⟨rfl, _, isOpen⟩ | ⟨lead, rfl, grounded, _⟩
  · simp [isOpen]
  · exact iff_of_true rfl grounded.closed

theorem links_told (ops : List JourneyOp) : (runAll (LeadBook.step settings) book ops).linkNotifications =
    book.linkNotifications ++ (linksMade settings book ops).map (LinkMade.notification settings) := by
  induction ops generalizing book with
  | nil => exact (List.append_nil _).symm
  | cons op rest ih =>
      rw [runAll_cons, ih, linksMade, List.map_append]
      rcases linksMade_cases settings book op with ⟨none, -, notifications⟩ | ⟨made, -, one, -, left⟩
      · rw [none, notifications]
        rfl
      · rw [one, left.told, List.append_assoc]
        rfl

theorem linksOf_cons (settings : JourneySettings) (book : LeadBook) (op : JourneyOp) (rest : List JourneyOp)
    (leadId : LeadId) : linksOf settings book (op :: rest) leadId =
      (op.linksMade settings book).filter (·.leadId = leadId) ++
        linksOf settings (book.step settings op) rest leadId := by
  rw [linksOf, linksMade, List.filter_append]
  rfl

theorem linksOf_step (settings : JourneySettings) (book : LeadBook) (op : JourneyOp) (leadId : LeadId) :
    ((op.linksMade settings book).filter (·.leadId = leadId) = [] ∧
      (book.step settings op).links leadId = book.links leadId) ∨
    ∃ made : LinkMade, (op.linksMade settings book).filter (·.leadId = leadId) = [made] ∧ made.leadId = leadId ∧
      made.Grounded settings book ∧ (book.step settings op).links leadId = made.link settings := by
  rcases linksMade_cases settings book op with ⟨none, links, -⟩ | ⟨made, -, one, grounded, left⟩
  · exact .inl ⟨by rw [none, List.filter_nil], by rw [links]⟩
  · by_cases own : made.leadId = leadId
    · refine .inr ⟨made, ?_, own, grounded, ?_⟩
      · simp [one, own]
      · simp only [left.links, own, if_true]
    · refine .inl ⟨?_, ?_⟩
      · simp [one, own]
      · simp only [left.links, Ne.symm own, if_false]

theorem links_stored (ops : List JourneyOp) : (runAll (LeadBook.step settings) book ops).links leadId =
    currentLink settings book leadId (linksOf settings book ops leadId) := by
  induction ops generalizing book with
  | nil => rfl
  | cons op rest ih =>
      rw [runAll_cons, ih, linksOf_cons, currentLink, currentLink]
      rcases linksOf_step settings book op leadId with ⟨none, links⟩ | ⟨made, one, -, -, links⟩
      · rw [none, links, List.nil_append]
      · rw [one, links, List.singleton_append, List.getLast?_cons]
        cases (linksOf settings (book.step settings op) rest leadId).getLast? with
        | none => rfl
        | some last => rfl

theorem links_grounded {ops : List JourneyOp} {made : LinkMade} (member : made ∈ linksMade settings book ops) :
    ∃ earlier later, ops = earlier ++ made.request :: later ∧
      made.Grounded settings (runAll (LeadBook.step settings) book earlier) := by
  induction ops generalizing book with
  | nil => simp [linksMade] at member
  | cons op rest ih =>
      rw [linksMade] at member
      rcases List.mem_append.mp member with now | later
      · rcases linksMade_cases settings book op with ⟨none, -⟩ | ⟨other, isRequest, one, grounded, -⟩
        · rw [none] at now
          cases now
        · rw [one, List.mem_singleton] at now
          rw [now, isRequest]
          exact ⟨[], rest, rfl, grounded⟩
      · obtain ⟨earlier, after, rfl, grounded⟩ := ih later
        exact ⟨op :: earlier, after, rfl, grounded⟩

theorem LinkMade.Grounded.apart {previous made : LinkMade} (grounded : made.Grounded settings book)
    (same : made.leadId = previous.leadId) (stands : book.links made.leadId = previous.link settings) :
    LinkMade.Apart settings previous made := by
  intro sameScope
  refine Nat.le_of_not_lt fun early => ?_
  have sameId : made.providerId = previous.providerId := by
    rw [LinkMade.providerId, LinkMade.providerId, same, sameScope]
  have closed := grounded.closed
  rw [stands, sameId, previous.link_standing early] at closed
  cases closed

/-- The link that a lead has is the last one that it was sent, if it was sent any. -/
theorem links_spaced (previous : Option LinkMade) (ops : List JourneyOp)
    (stands : ∀ last ∈ previous, last.leadId = leadId ∧ book.links leadId = last.link settings) :
    (previous.toList ++ linksOf settings book ops leadId).IsChain (LinkMade.Apart settings) := by
  induction ops generalizing book previous with
  | nil =>
      cases previous with
      | none => exact .nil
      | some last => exact .singleton last
  | cons op rest ih =>
      rw [linksOf_cons]
      rcases linksOf_step settings book op leadId with ⟨none, links⟩ | ⟨made, one, own, grounded, links⟩
      · rw [none, List.nil_append]
        exact ih previous fun last isLast => links ▸ stands last isLast
      · have chain := ih (some made) (by
          rintro last ⟨⟩
          exact ⟨own, links⟩)
        rw [one]
        cases previous with
        | none => exact chain
        | some last =>
            obtain ⟨ofLead, stored⟩ := stands last rfl
            subst own
            exact List.isChain_cons_cons.mpr ⟨grounded.apart ofLead.symm stored, chain⟩

theorem links_spent {ops : List JourneyOp} (paid : HasPaid book.leads leadId) :
    ∀ made ∈ linksMade settings book ops, made.leadId ≠ leadId := by
  induction ops generalizing book with
  | nil => simp [linksMade]
  | cons op rest ih =>
      intro made member
      rw [linksMade] at member
      rcases List.mem_append.mp member with now | later
      · rcases linksMade_cases settings book op with
          ⟨none, -⟩ | ⟨other, -, one, grounded, -⟩
        · rw [none] at now
          cases now
        · rw [one, List.mem_singleton] at now
          subst now
          rintro rfl
          obtain ⟨lead, found, isPaid⟩ := paid
          rw [grounded.found] at found
          cases found
          exact grounded.unpaid isPaid
      · exact ih (paid.writes (LeadBook.step_writes settings book op)) made later

end

theorem paymentLinks_run (settings : JourneySettings) (start : LeadBook) (ops : List JourneyOp) :
    LinksKept settings start ops where
  answered _ _ _ _ _ _ _ _ _ _ accepted := links_answered accepted
  stored _ := links_stored ops
  told := links_told ops
  grounded _ member := links_grounded member
  spaced _ := links_spaced none ops (by simp)
  spent _ _ _ _ paid := links_spent paid

/-- The second request comes while the first link is open, the third when it has expired. -/
def requestedLinks : List JourneyOp := [
  .sendLeadPaymentLink sampleNow 0 .advance .sms (.error "unreachable"),
  .sendLeadPaymentLink (sampleNow + 23 * hour) 0 .advance .sms (.error "unreachable"),
  .sendLeadPaymentLink (sampleNow + 24 * hour) 0 .advance .sms (.error "unreachable")]

theorem paymentLinks_run_requestedLinks : LinksKept sampleJourneySettings enteredLeads requestedLinks ∧
    (linksMade sampleJourneySettings enteredLeads requestedLinks).map LinkMade.madeAt =
      [sampleNow, sampleNow + 24 * hour] ∧
    ((runAll (LeadBook.step sampleJourneySettings) enteredLeads requestedLinks).links 0).expiresAt =
      some (sampleNow + 48 * hour) :=
  ⟨paymentLinks_run sampleJourneySettings enteredLeads requestedLinks, by decide +kernel, by decide +kernel⟩

end PsCore
