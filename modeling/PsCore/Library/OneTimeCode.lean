import Mathlib.Data.List.Induction
import PsCore.Library.TransitionRun

/-!
One-time codes. A send replaces the code once the cooldown is over; a guess is one of a bounded
number of attempts on the code of the last send, until the code is used or its lifetime ends.
-/

namespace OneTimeCode

open TransitionRun

/-- `digest` is what is kept of a code. -/
structure Policy (Code Digest : Type) where
  cooldown : Nat
  lifetime : Nat
  maxAttempts : Nat
  digest : Code → Digest

inductive Request (Code : Type)
  | send (code : Code) (delivered : Bool)
  | guess (code : Code)

structure Call (Code : Type) where
  now : Nat
  request : Request Code

structure Challenge (Digest : Type) where
  digest : Digest
  sentAt : Nat
  attempts : Nat
  consumed : Bool

variable {Code Digest : Type} [DecidableEq Digest]

namespace Policy

variable (policy : Policy Code Digest)

def isOpen (now : Nat) (challenge : Challenge Digest) : Bool :=
  now < challenge.sentAt + policy.lifetime && !challenge.consumed && challenge.attempts < policy.maxAttempts

def rested (now : Nat) (challenge : Option (Challenge Digest)) : Bool :=
  challenge.all fun last => last.sentAt + policy.cooldown ≤ now

def accepts (challenge : Option (Challenge Digest)) (call : Call Code) : Bool :=
  match call.request with
  | .send _ delivered => delivered && policy.rested call.now challenge
  | .guess code => challenge.any fun last => policy.isOpen call.now last && last.digest == policy.digest code

def guessed (now : Nat) (code : Code) (challenge : Challenge Digest) : Challenge Digest :=
  if policy.isOpen now challenge then
    { challenge with
      attempts := challenge.attempts + 1
      consumed := challenge.digest == policy.digest code }
  else challenge

def step (challenge : Option (Challenge Digest)) (call : Call Code) : Option (Challenge Digest) :=
  match call.request with
  | .send code _ =>
      if policy.accepts challenge call then
        some { digest := policy.digest code, sentAt := call.now, attempts := 0, consumed := false }
      else challenge
  | .guess code => challenge.map (policy.guessed call.now code)

end Policy

def Request.isGuess : Request Code → Bool
  | .guess _ => true
  | .send _ _ => false

def guesses (calls : List (Call Code)) : Nat :=
  calls.countP (·.request.isGuess)

variable {policy : Policy Code Digest}

theorem send_accepted {challenge : Option (Challenge Digest)} {now : Nat} {code : Code} {delivered : Bool}
    (accepted : policy.accepts challenge ⟨now, .send code delivered⟩ = true) :
    policy.step challenge ⟨now, .send code delivered⟩ =
      some { digest := policy.digest code, sentAt := now, attempts := 0, consumed := false } :=
  if_pos accepted

theorem send_refused {challenge : Option (Challenge Digest)} {now : Nat} {code : Code} {delivered : Bool}
    (refused : policy.accepts challenge ⟨now, .send code delivered⟩ = false) :
    policy.step challenge ⟨now, .send code delivered⟩ = challenge :=
  if_neg (by simp [refused])

theorem guess_open {challenge : Challenge Digest} {now : Nat} (code : Code)
    (isOpen : policy.isOpen now challenge = true) :
    policy.accepts (some challenge) ⟨now, .guess code⟩ = (challenge.digest == policy.digest code) ∧
    policy.step (some challenge) ⟨now, .guess code⟩ = some { challenge with
      attempts := challenge.attempts + 1
      consumed := challenge.digest == policy.digest code } := by
  constructor
  · simp [Policy.accepts, isOpen]
  · simp [Policy.step, Policy.guessed, isOpen]

theorem guess_closed {challenge : Challenge Digest} {now : Nat} (code : Code)
    (closed : policy.isOpen now challenge = false) :
    policy.accepts (some challenge) ⟨now, .guess code⟩ = false ∧
    policy.step (some challenge) ⟨now, .guess code⟩ = some challenge := by
  constructor
  · simp [Policy.accepts, closed]
  · simp [Policy.step, Policy.guessed, closed]

theorem sentAt_step (challenge : Challenge Digest) (call : Call Code) :
    ∃ next, policy.step (some challenge) call = some next ∧ challenge.sentAt ≤ next.sentAt := by
  obtain ⟨now, request⟩ := call
  cases request with
  | send code delivered =>
      by_cases accepted : policy.accepts (some challenge) ⟨now, .send code delivered⟩ = true
      · refine ⟨_, send_accepted accepted, ?_⟩
        simp only [Policy.accepts, Policy.rested, Option.all_some, Bool.and_eq_true, decide_eq_true_eq] at accepted
        exact Nat.le_trans (Nat.le_add_right _ _) accepted.2
      · exact ⟨challenge, send_refused (by simpa using accepted), Nat.le_refl _⟩
  | guess code =>
      refine ⟨policy.guessed now code challenge, rfl, ?_⟩
      unfold Policy.guessed
      split <;> exact Nat.le_refl _

theorem sentAt_run (challenge : Challenge Digest) (calls : List (Call Code)) :
    ∃ next, runAll policy.step (some challenge) calls = some next ∧ challenge.sentAt ≤ next.sentAt := by
  induction calls generalizing challenge with
  | nil => exact ⟨challenge, rfl, Nat.le_refl _⟩
  | cons call rest ih =>
      obtain ⟨middle, stepped, later⟩ := sentAt_step challenge call
      obtain ⟨next, ran, evenLater⟩ := ih middle
      refine ⟨next, ?_, Nat.le_trans later evenLater⟩
      rw [runAll_cons, stepped, ran]

theorem sends_apart {start : Option (Challenge Digest)} {before middle : List (Call Code)} {first second : Nat}
    {firstCode secondCode : Code} {firstDelivered secondDelivered : Bool}
    (firstSent : policy.accepts (runAll policy.step start before) ⟨first, .send firstCode firstDelivered⟩ = true)
    (secondSent : policy.accepts
      (runAll policy.step start (before ++ ⟨first, .send firstCode firstDelivered⟩ :: middle))
      ⟨second, .send secondCode secondDelivered⟩ = true) :
    first + policy.cooldown ≤ second := by
  rw [runAll_append, runAll_cons, send_accepted firstSent] at secondSent
  obtain ⟨last, ran, later⟩ := sentAt_run
    { digest := policy.digest firstCode, sentAt := first, attempts := 0, consumed := false } middle
  rw [ran] at secondSent
  simp only [Policy.accepts, Policy.rested, Option.all_some, Bool.and_eq_true, decide_eq_true_eq] at secondSent
  exact Nat.le_trans (Nat.add_le_add_right later _) secondSent.2

/-! The guesses on one send. -/

/-- Since a send that was accepted nothing has been: it is the challenge's own, and as long as
it lives the guesses are its attempts. -/
structure Since (policy : Policy Code Digest) (earlier : List (Call Code)) (instant : Nat) (code : Code)
    (since : List (Call Code)) (challenge : Challenge Digest) : Prop where
  sent : policy.accepts (runAll policy.step none earlier) ⟨instant, .send code true⟩ = true
  rejected : Guarded policy.step (fun state call => policy.accepts state call = false)
    (runAll policy.step none (earlier ++ [⟨instant, .send code true⟩])) since
  sentAt : challenge.sentAt = instant
  digest : challenge.digest = policy.digest code
  attempts : ∀ now, (∀ call ∈ since, call.now ≤ now) → now < instant + policy.lifetime →
    challenge.attempts = min policy.maxAttempts (guesses since)

theorem Since.rejects {earlier since : List (Call Code)} {instant : Nat} {code : Code}
    {challenge next : Challenge Digest} {call : Call Code} (follows : Since policy earlier instant code since challenge)
    (reached : runAll policy.step none (earlier ++ ⟨instant, .send code true⟩ :: since) = some challenge)
    (turnedAway : policy.accepts (some challenge) call = false)
    (sameSend : next.sentAt = challenge.sentAt ∧ next.digest = challenge.digest)
    (counted : ∀ now, call.now ≤ now → now < instant + policy.lifetime →
      challenge.attempts = min policy.maxAttempts (guesses since) →
      next.attempts = min policy.maxAttempts (guesses (since ++ [call]))) :
    Since policy earlier instant code (since ++ [call]) next where
  sent := follows.sent
  rejected := by
    refine Guarded.append.mpr ⟨follows.rejected, ?_, trivial⟩
    rw [← runAll_append, List.append_assoc, List.singleton_append, reached]
    exact turnedAway
  sentAt := sameSend.1.trans follows.sentAt
  digest := sameSend.2.trans follows.digest
  attempts := by
    intro now earlierThan alive
    simp only [List.mem_append, List.mem_singleton] at earlierThan
    exact counted now (earlierThan call (.inr rfl)) alive
      (follows.attempts now (fun other member => earlierThan other (.inl member)) alive)

theorem guesses_append (calls : List (Call Code)) (call : Call Code) :
    guesses (calls ++ [call]) = guesses calls + if call.request.isGuess then 1 else 0 := by
  simp [guesses, List.countP_append, List.countP_cons]

/-- A challenge that is not used up is that of the last accepted send. -/
theorem since_lastSend {calls : List (Call Code)} {challenge : Challenge Digest}
    (reached : runAll policy.step none calls = some challenge) (unused : challenge.consumed = false) :
    ∃ earlier sentAt code since, calls = earlier ++ ⟨sentAt, .send code true⟩ :: since ∧
      Since policy earlier sentAt code since challenge := by
  induction calls using List.reverseRecOn generalizing challenge with
  | nil => simp at reached
  | append_singleton calls call ih =>
      obtain ⟨now, request⟩ := call
      rw [runAll_append, runAll_cons, runAll_nil] at reached
      cases request with
      | send code delivered =>
          by_cases accepted : policy.accepts (runAll policy.step none calls) ⟨now, .send code delivered⟩ = true
          · rw [send_accepted accepted, Option.some.injEq] at reached
            subst reached
            have isDelivered : delivered = true := by
              simp only [Policy.accepts, Bool.and_eq_true] at accepted
              exact accepted.1
            subst isDelivered
            exact ⟨calls, now, code, [], rfl, accepted, trivial, rfl, rfl, fun _ _ _ => by simp [guesses]⟩
          · rw [send_refused (by simpa using accepted)] at reached
            obtain ⟨earlier, sentAt, lastCode, since, rfl, follows⟩ := ih reached unused
            refine ⟨earlier, sentAt, lastCode, since ++ [⟨now, .send code delivered⟩], by simp, ?_⟩
            refine follows.rejects reached ?_ ⟨rfl, rfl⟩ fun _ _ _ attempts => ?_
            · rw [← reached]
              simpa using accepted
            · simpa [guesses_append, Request.isGuess] using attempts
      | guess code =>
          cases before : runAll policy.step none calls with
          | none => simp [before, Policy.step] at reached
          | some last =>
              rw [before] at reached
              cases isOpen : policy.isOpen now last with
              | true =>
                  obtain ⟨accepts, stepped⟩ := guess_open code isOpen
                  rw [stepped, Option.some.injEq] at reached
                  subst reached
                  simp only [Policy.isOpen, Bool.and_eq_true, Bool.not_eq_true', decide_eq_true_eq] at isOpen
                  obtain ⟨earlier, sentAt, lastCode, since, rfl, follows⟩ := ih before isOpen.1.2
                  refine ⟨earlier, sentAt, lastCode, since ++ [⟨now, .guess code⟩], by simp, ?_⟩
                  -- A right guess would have used the challenge up.
                  refine follows.rejects before (accepts.trans unused) ⟨rfl, rfl⟩ fun _ _ _ attempts => ?_
                  simp only [guesses_append, Request.isGuess, if_true]
                  omega
              | false =>
                  obtain ⟨refuses, stepped⟩ := guess_closed code isOpen
                  rw [stepped, Option.some.injEq] at reached
                  subst reached
                  obtain ⟨earlier, sentAt, lastCode, since, rfl, follows⟩ := ih before unused
                  refine ⟨earlier, sentAt, lastCode, since ++ [⟨now, .guess code⟩], by simp, ?_⟩
                  refine follows.rejects before refuses ⟨rfl, rfl⟩ fun later earlierThan alive attempts => ?_
                  have sentThen := follows.sentAt
                  simp only [Policy.isOpen, unused, Bool.not_false, Bool.and_true, Bool.and_eq_false_iff,
                    decide_eq_false_iff_not] at isOpen
                  simp only [guesses_append, Request.isGuess, if_true]
                  simp only at earlierThan
                  omega

/-- A guess is accepted on the code of the last send only, before it expires, after fewer than
the allowed guesses and no accepted one. -/
theorem accepted_guess {before : List (Call Code)} {now : Nat} {code : Code}
    (injective : Function.Injective policy.digest) (monotone : ∀ call ∈ before, call.now ≤ now)
    (accepted : policy.accepts (runAll policy.step none before) ⟨now, .guess code⟩ = true) :
    ∃ earlier sentAt since, before = earlier ++ ⟨sentAt, .send code true⟩ :: since ∧
      policy.accepts (runAll policy.step none earlier) ⟨sentAt, .send code true⟩ = true ∧
      now < sentAt + policy.lifetime ∧ guesses since < policy.maxAttempts ∧
      Guarded policy.step (fun state call => policy.accepts state call = false)
        (runAll policy.step none (earlier ++ [⟨sentAt, .send code true⟩])) since := by
  simp only [Policy.accepts, Option.any_eq_true, Bool.and_eq_true, beq_iff_eq] at accepted
  obtain ⟨challenge, reached, isOpen, matches_⟩ := accepted
  simp only [Policy.isOpen, Bool.and_eq_true, Bool.not_eq_true', decide_eq_true_eq] at isOpen
  obtain ⟨⟨alive, unused⟩, left⟩ := isOpen
  obtain ⟨earlier, sentAt, sentCode, since, rfl, follows⟩ := since_lastSend reached unused
  have sameCode : sentCode = code := injective (follows.digest.symm.trans matches_)
  subst sameCode
  rw [follows.sentAt] at alive
  have attempts := follows.attempts now (fun call member => monotone call (by simp [member])) alive
  exact ⟨earlier, sentAt, since, rfl, follows.sent, alive, by omega, follows.rejected⟩

end OneTimeCode
