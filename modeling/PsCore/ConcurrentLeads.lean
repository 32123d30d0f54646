import PsCore.SaveableLeads

/-!
Leads of concurrent requests. Searching for a lead locks the one that is found; where none is
found nothing is locked, and nothing in the table keeps two inserts apart.
-/

namespace PsCore

open Fallible RowTable TransitionRun

/-! A call of `upsert_lead`, in the steps that other calls can come between. The last one is
the commit of the transaction around it; until then nobody else sees what it has written. -/

inductive UpsertStage
  | searching
  | searched (target : Option LeadId) (lead : Lead)
  | cleaned (target : Option LeadId) (lead : Lead)
  | finished

def UpsertStage.locked : UpsertStage → Option LeadId
  | .searched target _ | .cleaned target _ => target
  | .searching | .finished => none

structure UpsertCall where
  now : Instant
  event : LeadEvent
  stage : UpsertStage

structure LeadDesk where
  leads : List Lead
  calls : List UpsertCall

inductive DeskInput
  | arrive (now : Instant) (event : LeadEvent)
  | advance (call : Nat)

namespace LeadDesk

def isLocked (desk : LeadDesk) (leadId : LeadId) : Bool :=
  desk.calls.any fun call => call.stage.locked == some leadId

/-- A search that comes upon a locked row waits. -/
def search (desk : LeadDesk) (call : UpsertCall) : UpsertStage :=
  match bestRow call.event.matches Lead.lastActivityAt desk.leads with
  | some (leadId, lead) =>
      if desk.isLocked leadId then .searching else .searched (some leadId) (call.event.merge call.now lead)
  | none => .searched none (call.event.merge call.now (call.event.newLead call.now))

def cleaning (desk : LeadDesk) (target : Option LeadId) (lead : Lead) : UpsertStage :=
  match lead.fullClean desk.leads target with
  | .ok () => .cleaned target lead
  | .error _ => .finished

def written (leads : List Lead) (lead : Lead) : Option LeadId → List Lead
  | some leadId => leads.set leadId lead
  | none => leads ++ [lead]

def moved (desk : LeadDesk) (position : Nat) (call : UpsertCall) (stage : UpsertStage) : LeadDesk :=
  { desk with calls := desk.calls.set position { call with stage := stage } }

def step (desk : LeadDesk) : DeskInput → LeadDesk
  | .arrive now event =>
      { desk with calls := desk.calls ++ [{ now := now, event := event, stage := .searching }] }
  | .advance position => match desk.calls[position]? with
      | none => desk
      | some call => match call.stage with
          | .searching => desk.moved position call (desk.search call)
          | .searched target lead => desk.moved position call (desk.cleaning target lead)
          | .cleaned target lead =>
              { desk.moved position call .finished with leads := written desk.leads lead target }
          | .finished => desk

end LeadDesk

/-- Undisturbed, the steps of a call are `upsert_lead`. -/
theorem upsertLead_steps (now : Instant) (leads : List Lead) (event : LeadEvent) :
    (runAll LeadDesk.step { leads := leads, calls := [] }
      [.arrive now event, .advance 0, .advance 0, .advance 0]).leads =
    savedOr leads ((upsertLead now leads event).map Prod.snd) := by
  unfold upsertLead
  cases best : bestRow event.matches Lead.lastActivityAt leads with
  | some found =>
      obtain ⟨leadId, lead⟩ := found
      cases clean : (event.merge now lead).fullClean leads (some leadId) with
      | ok done =>
          simp [LeadDesk.step, LeadDesk.moved, LeadDesk.search, LeadDesk.isLocked, UpsertStage.locked, LeadDesk.cleaning,
            LeadDesk.written, best, clean, saveLead, savedOr, bind, Except.bind, pure, Except.pure, Except.map]
      | error error =>
          simp [LeadDesk.step, LeadDesk.moved, LeadDesk.search, LeadDesk.isLocked, UpsertStage.locked, LeadDesk.cleaning,
            best, clean, saveLead, savedOr, bind, Except.bind, Except.map]
  | none =>
      cases clean : (event.merge now (event.newLead now)).fullClean leads none with
      | ok done =>
          simp [LeadDesk.step, LeadDesk.moved, LeadDesk.search, LeadDesk.cleaning, LeadDesk.written, best, clean,
            savedOr, bind, Except.bind, pure, Except.pure, Except.map]
      | error error =>
          simp [LeadDesk.step, LeadDesk.moved, LeadDesk.search, LeadDesk.cleaning, best, clean, savedOr, bind,
            Except.bind, Except.map]

def OneActiveLead (leads : List Lead) : Prop :=
  ∀ (first second : LeadId) (left right : Lead), leads[first]? = some left → leads[second]? = some right →
    left.isActive = true → right.isActive = true → left.primaryMobile = right.primaryMobile →
    left.requiredService = right.requiredService → first = second

structure LeadDesk.Initial (desk : LeadDesk) : Prop where
  oneActive : OneActiveLead desk.leads
  calls : desk.calls = []

/-- Who found no lead commits before anybody else has committed one for the same mobile and service. -/
def DeskInput.insertsFresh (desk : LeadDesk) : DeskInput → Bool
  | .arrive _ _ => true
  | .advance position => (desk.calls[position]?).all fun call => match call.stage with
      | .cleaned none _ => !desk.leads.any call.event.matches
      | _ => true

theorem SameIdentity.refl (lead : Lead) : SameIdentity lead lead := ⟨rfl, rfl, rfl⟩

theorem SameIdentity.trans {first second third : Lead} (one : SameIdentity first second)
    (two : SameIdentity second third) : SameIdentity first third :=
  ⟨two.primaryMobile.trans one.primaryMobile, two.requiredService.trans one.requiredService,
    two.status.trans one.status⟩

theorem OneActiveLead.set {leads : List Lead} {leadId : LeadId} {before after : Lead} (one : OneActiveLead leads)
    (found : leads[leadId]? = some before) (same : SameIdentity before after) :
    OneActiveLead (leads.set leadId after) := by
  have original : ∀ (key : LeadId) (lead : Lead), (leads.set leadId after)[key]? = some lead →
      ∃ earlier, leads[key]? = some earlier ∧ SameIdentity earlier lead := by
    intro key lead present
    rcases set_cases present with ⟨rfl, rfl⟩ | old
    · exact ⟨before, found, same⟩
    · exact ⟨lead, old, .refl lead⟩
  intro first second left right atFirst atSecond leftActive rightActive mobile service
  obtain ⟨leftBefore, inFirst, sameLeft⟩ := original first left atFirst
  obtain ⟨rightBefore, inSecond, sameRight⟩ := original second right atSecond
  refine one first second leftBefore rightBefore inFirst inSecond (sameLeft.isActive ▸ leftActive)
    (sameRight.isActive ▸ rightActive) ?_ ?_
  · rw [← sameLeft.primaryMobile, mobile, sameRight.primaryMobile]
  · rw [← sameLeft.requiredService, service, sameRight.requiredService]

theorem OneActiveLead.append {leads : List Lead} {added : Lead} (one : OneActiveLead leads)
    (fresh : ∀ lead ∈ leads, lead.isActive = true → lead.primaryMobile = added.primaryMobile →
      lead.requiredService ≠ added.requiredService) : OneActiveLead (leads ++ [added]) := by
  intro first second left right atFirst atSecond leftActive rightActive mobile service
  rcases append_cases atFirst with oldLeft | ⟨firstEnd, rfl⟩
  · rcases append_cases atSecond with oldRight | ⟨_, rfl⟩
    · exact one first second left right oldLeft oldRight leftActive rightActive mobile service
    · exact absurd service (fresh left (List.mem_of_getElem? oldLeft) leftActive mobile)
  · rcases append_cases atSecond with oldRight | ⟨secondEnd, _⟩
    · exact absurd service.symm (fresh right (List.mem_of_getElem? oldRight) rightActive mobile.symm)
    · exact firstEnd.trans secondEnd.symm

def WritesOwn (leads : List Lead) (event : LeadEvent) (lead : Lead) : Option LeadId → Prop
  | some leadId => ∃ row, leads[leadId]? = some row ∧ SameIdentity row lead
  | none => event.matches lead = true

def UpsertCall.Sound (leads : List Lead) (call : UpsertCall) : Prop :=
  match call.stage with
  | .searched target lead | .cleaned target lead => WritesOwn leads call.event lead target
  | .searching | .finished => True

structure LeadDesk.Sound (desk : LeadDesk) : Prop where
  oneActive : OneActiveLead desk.leads
  calls : ∀ call ∈ desk.calls, call.Sound desk.leads

theorem UpsertCall.Sound.kept {leads next : List Lead} {call : UpsertCall} (sound : call.Sound leads)
    (kept : KeptBy SameIdentity leads next) : call.Sound next := by
  have writes : ∀ lead target, WritesOwn leads call.event lead target → WritesOwn next call.event lead target := by
    intro lead target writes
    cases target with
    | none => exact writes
    | some leadId =>
        obtain ⟨row, found, same⟩ := writes
        obtain ⟨after, present, sameAfter⟩ := kept leadId row found
        exact ⟨after, present, ⟨same.primaryMobile.trans sameAfter.primaryMobile.symm,
          same.requiredService.trans sameAfter.requiredService.symm, same.status.trans sameAfter.status.symm⟩⟩
  unfold UpsertCall.Sound at sound ⊢
  split at sound
  · exact writes _ _ sound
  · exact writes _ _ sound
  · trivial
  · trivial

theorem mem_set_calls {calls : List UpsertCall} {position : Nat} {changed : UpsertCall} {leads : List Lead}
    (sound : ∀ call ∈ calls, call.Sound leads) (changedSound : changed.Sound leads) :
    ∀ call ∈ calls.set position changed, call.Sound leads := by
  intro call member
  rcases List.mem_or_eq_of_mem_set member with old | rfl
  · exact sound call old
  · exact changedSound

theorem search_sound (desk : LeadDesk) (call : UpsertCall) :
    UpsertCall.Sound desk.leads { call with stage := desk.search call } := by
  unfold LeadDesk.search
  split
  · rename_i leadId lead best
    split
    · trivial
    · exact ⟨lead, (bestRow_some best).1, ⟨rfl, rfl, rfl⟩⟩
  · exact LeadEvent.matches_iff.mpr ⟨rfl, rfl, rfl⟩

theorem cleaning_sound (desk : LeadDesk) (call : UpsertCall) {target : Option LeadId} {lead : Lead}
    (writes : WritesOwn desk.leads call.event lead target) :
    UpsertCall.Sound desk.leads { call with stage := desk.cleaning target lead } := by
  unfold LeadDesk.cleaning
  split
  · exact writes
  · trivial

theorem LeadDesk.Sound.write {desk : LeadDesk} (sound : desk.Sound) {target : Option LeadId} {lead : Lead}
    {event : LeadEvent} (writes : WritesOwn desk.leads event lead target)
    (fresh : target = none → desk.leads.any event.matches = false) :
    OneActiveLead (LeadDesk.written desk.leads lead target) ∧
      KeptBy SameIdentity desk.leads (LeadDesk.written desk.leads lead target) := by
  cases target with
  | some leadId =>
      obtain ⟨row, found, same⟩ := writes
      exact ⟨sound.oneActive.set found same, .set .refl found same⟩
  | none =>
      refine ⟨sound.oneActive.append fun other member active mobile service => ?_, .append .refl _ _⟩
      obtain ⟨sameMobile, sameService, _⟩ := LeadEvent.matches_iff.mp writes
      exact List.any_eq_false.mp (fresh rfl) other member
        (LeadEvent.matches_iff.mpr ⟨mobile.trans sameMobile, service.trans sameService, active⟩)

theorem LeadDesk.Sound.step {desk : LeadDesk} {input : DeskInput} (sound : desk.Sound)
    (fresh : input.insertsFresh desk = true) : (desk.step input).Sound := by
  obtain ⟨oneActive, calls⟩ := sound
  cases input with
  | arrive now event =>
      refine ⟨oneActive, fun call member => ?_⟩
      rcases List.mem_append.mp member with old | new
      · exact calls call old
      · rw [List.mem_singleton.mp new]
        trivial
  | advance position =>
      simp only [LeadDesk.step]
      cases located : desk.calls[position]? with
      | none => exact ⟨oneActive, calls⟩
      | some call =>
          have own := calls call (List.mem_of_getElem? located)
          simp only
          unfold UpsertCall.Sound at own
          split
          · exact ⟨oneActive, mem_set_calls calls (search_sound desk call)⟩
          · rename_i target lead stage
            rw [stage] at own
            exact ⟨oneActive, mem_set_calls calls (cleaning_sound desk call own)⟩
          · rename_i target lead stage
            rw [stage] at own
            obtain ⟨one, kept⟩ := LeadDesk.Sound.write ⟨oneActive, calls⟩ own fun isNew => by
              simpa [DeskInput.insertsFresh, located, stage, isNew] using fresh
            exact ⟨one, mem_set_calls (fun other member => (calls other member).kept kept) trivial⟩
          · exact ⟨oneActive, calls⟩

theorem insert_breaks {desk : LeadDesk} {input : DeskInput} (sound : desk.Sound)
    (stale : ¬ input.insertsFresh desk = true) : ¬ OneActiveLead (desk.step input).leads := by
  cases input with
  | arrive now event => exact absurd rfl stale
  | advance position =>
      cases located : desk.calls[position]? with
      | none => simp [DeskInput.insertsFresh, located] at stale
      | some call =>
          have own := sound.calls call (List.mem_of_getElem? located)
          simp only [DeskInput.insertsFresh, located, Option.all_some] at stale
          split at stale
          · rename_i lead stage
            unfold UpsertCall.Sound at own
            rw [stage] at own
            simp only [Bool.not_eq_true', Bool.not_eq_false, List.any_eq_true] at stale
            obtain ⟨other, member, isMatch⟩ := stale
            obtain ⟨otherId, present⟩ := List.mem_iff_getElem?.mp member
            obtain ⟨mobile, service, active⟩ := LeadEvent.matches_iff.mp own
            obtain ⟨otherMobile, otherService, otherActive⟩ := LeadEvent.matches_iff.mp isMatch
            intro one
            have below := (List.getElem?_eq_some_iff.mp present).1
            have same := one otherId desk.leads.length other lead
              (by simp [LeadDesk.step, located, stage, LeadDesk.written, List.getElem?_append_left below, present])
              (by simp [LeadDesk.step, located, stage, LeadDesk.written])
              otherActive active (otherMobile.trans mobile.symm) (otherService.trans service.symm)
            exact Nat.ne_of_lt below same
          · exact absurd rfl stale

/-- There is at most one active lead for a mobile and a service in every state of a run exactly
when no insert comes after another one for the same mobile and service that its search missed. -/
theorem oneActiveLead_iff {start : LeadDesk} {inputs : List DeskInput} (initial : start.Initial) :
    Guarded LeadDesk.step (fun desk input => input.insertsFresh desk = true) start inputs ↔
      ∀ before after, inputs = before ++ after → OneActiveLead (runAll LeadDesk.step start before).leads := by
  have sound : start.Sound := by
    refine ⟨initial.oneActive, ?_⟩
    rw [initial.calls]
    exact List.forall_mem_nil _
  have preserved : ∀ desk input, LeadDesk.Sound desk → input.insertsFresh desk = true →
      LeadDesk.Sound (desk.step input) := fun _ _ holds fresh => holds.step fresh
  exact Guarded.iff_throughout (fun _ holds => holds.oneActive) preserved
    (fun _ _ holds stale => insert_breaks holds stale) sound

def emptyDesk : LeadDesk := { leads := [], calls := [] }

theorem emptyDesk_initial : emptyDesk.Initial := by
  constructor
  · intro first second left right present
    cases present
  · rfl

def sampleEvent (service : Option ServiceId) : LeadEvent where
  mobileNumber := "+919000000001"
  customerName := "Asha"
  service := service
  customer := none
  source := .serviceView
  funnelStatus := .visited
  paymentStatus := .notRequired

def viewsInTurn : List DeskInput := [
  .arrive sampleNow (sampleEvent (some 0)), .arrive sampleNow (sampleEvent (some 1)),
  .arrive sampleNow (sampleEvent (some 0)), .advance 0, .advance 1, .advance 0, .advance 1, .advance 0, .advance 1,
  .advance 2, .advance 2, .advance 2]

theorem oneActiveLead_iff_viewsInTurn :
    Guarded LeadDesk.step (fun desk input => input.insertsFresh desk = true) emptyDesk viewsInTurn ↔
      ∀ before after, viewsInTurn = before ++ after → OneActiveLead (runAll LeadDesk.step emptyDesk before).leads :=
  oneActiveLead_iff emptyDesk_initial

def viewsAtOnce : List DeskInput := [
  .arrive sampleNow (sampleEvent (some 0)), .arrive sampleNow (sampleEvent (some 0)),
  .advance 0, .advance 1, .advance 0, .advance 1, .advance 0, .advance 1]

theorem active_leads_doubled :
    ¬ ∀ (start : LeadDesk) (inputs : List DeskInput), start.Initial →
      OneActiveLead (runAll LeadDesk.step start inputs).leads := by
  intro always
  have one := always emptyDesk viewsAtOnce emptyDesk_initial
  have stored : (runAll LeadDesk.step emptyDesk viewsAtOnce).leads =
      [(sampleEvent (some 0)).newLead sampleNow, (sampleEvent (some 0)).newLead sampleNow] := by decide
  rw [stored] at one
  exact absurd (one 0 1 _ _ rfl rfl rfl rfl rfl rfl) (by decide)

end PsCore
