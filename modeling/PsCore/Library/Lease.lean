import PsCore.Library.RowTable

/-!
A job that is attempted under a lease. Whoever asks for it is sent away while somebody is at
it or after it is done, and begins an attempt otherwise; a lease that is older than its term
keeps nobody away. What an attempt came to is settled in the record some time after it ended.
-/

namespace Lease

inductive Mark
  | taken
  | done
  | failed
  deriving DecidableEq

structure Record where
  mark : Mark
  attempts : Nat
  stamp : Nat

inductive Stage
  | running
  | ended (succeeded : Bool)
  | settled (succeeded : Bool)
  deriving DecidableEq

structure Attempt where
  begun : Nat
  stage : Stage
  deriving DecidableEq

def Attempt.unsettled (attempt : Attempt) : Bool :=
  match attempt.stage with
  | .running | .ended _ => true
  | .settled _ => false

/-- `told` once somebody was sent away or told that the job is done. -/
structure Job where
  record : Option Record
  attempts : List Attempt
  told : Bool
  clock : Nat

inductive Event
  | pass (duration : Nat)
  | ask
  | finish (attempt : Nat) (succeeded : Bool)
  | settle (attempt : Nat)

def Record.keepsAway (term clock : Nat) (record : Record) : Bool :=
  record.mark == .done ||
    (record.mark == .taken && decide (0 < record.attempts) && decide (clock ≤ record.stamp + term))

def Job.begin (job : Job) : Job :=
  { job with
    record := some {
      mark := .taken
      attempts := (job.record.map Record.attempts).getD 0 + 1
      stamp := job.clock
    }
    attempts := job.attempts ++ [{ begun := job.clock, stage := .running }] }

def Record.settle (succeeded : Bool) (record : Record) : Record :=
  { record with mark := if succeeded then .done else .failed }

def step (term : Nat) (job : Job) : Event → Job
  | .pass duration => { job with clock := job.clock + duration }
  | .ask =>
      if job.record.any (Record.keepsAway term job.clock) then { job with told := true } else job.begin
  | .finish position succeeded => match job.attempts[position]? with
      | some attempt =>
          if attempt.stage = .running then
            { job with attempts := job.attempts.set position { attempt with stage := .ended succeeded } }
          else job
      | none => job
  | .settle position => match job.attempts[position]? with
      | some attempt => match attempt.stage with
          | .ended succeeded => { job with
              record := job.record.map (Record.settle succeeded)
              attempts := job.attempts.set position { attempt with stage := .settled succeeded }
              told := job.told || succeeded }
          | _ => job
      | none => job

def Timely (term : Nat) (job : Job) : Event → Prop
  | .pass duration => ∀ attempt ∈ job.attempts, attempt.unsettled = true →
      job.clock + duration ≤ attempt.begun + term
  | _ => True

/-- The record tells where the job stands: every attempt but the last has failed. -/
inductive Orderly (term : Nat) (job : Job) : Prop
  | untouched (record : job.record = none) (attempts : job.attempts = [])
  | running (earlier : List Attempt) (attempt : Attempt)
      (attempts : job.attempts = earlier ++ [attempt])
      (record : job.record = some { mark := .taken, attempts := job.attempts.length, stamp := attempt.begun })
      (unsettled : attempt.unsettled = true) (within : job.clock ≤ attempt.begun + term)
      (failed : ∀ other ∈ earlier, other.stage = .settled false)
  | done (earlier : List Attempt) (attempt : Attempt) (stamp : Nat)
      (attempts : job.attempts = earlier ++ [attempt])
      (record : job.record = some { mark := .done, attempts := job.attempts.length, stamp := stamp })
      (succeeded : attempt.stage = .settled true) (failed : ∀ other ∈ earlier, other.stage = .settled false)
  | failed (stamp : Nat)
      (record : job.record = some { mark := .failed, attempts := job.attempts.length, stamp := stamp })
      (failed : ∀ attempt ∈ job.attempts, attempt.stage = .settled false)

theorem unsettled_of_settled {attempt : Attempt} {succeeded : Bool} (settled : attempt.stage = .settled succeeded) :
    attempt.unsettled = false := by
  simp [Attempt.unsettled, settled]

section

variable {term : Nat} {job : Job}

theorem last_of_unsettled {earlier attempts : List Attempt} {last attempt : Attempt} {position : Nat}
    (attemptsEq : attempts = earlier ++ [last]) (failed : ∀ other ∈ earlier, other.stage = .settled false)
    (present : attempts[position]? = some attempt) (unsettled : attempt.unsettled = true) :
    position = earlier.length ∧ attempt = last := by
  subst attemptsEq
  rcases RowTable.append_cases present with old | last
  · rw [unsettled_of_settled (failed attempt (List.mem_of_getElem? old))] at unsettled
    cases unsettled
  · exact last

theorem Orderly.begin (orderly : Orderly term job)
    (open_ : job.record.any (Record.keepsAway term job.clock) = false) : Orderly term job.begin := by
  have stage : ({ begun := job.clock, stage := .running } : Attempt).unsettled = true := rfl
  have within : job.clock ≤ job.clock + term := by omega
  cases orderly with
  | untouched record attempts =>
      refine .running [] _ (by rw [Job.begin, attempts]) ?_ stage within nofun
      simp [Job.begin, record, attempts]
  | running earlier attempt attempts record unsettled inTerm failed =>
      -- the lease of the running attempt still keeps others away
      have positive : 0 < job.attempts.length := by simp [attempts]
      simp [record, Record.keepsAway, positive, inTerm] at open_
  | done earlier last stamp attempts record succeeded failed => simp [record, Record.keepsAway] at open_
  | failed stamp record failed =>
      refine .running job.attempts _ rfl ?_ stage within failed
      simp [Job.begin, record]

theorem Orderly.finish (orderly : Orderly term job) {position : Nat} {attempt : Attempt} {succeeded : Bool}
    (present : job.attempts[position]? = some attempt) (running : attempt.stage = .running) :
    Orderly term { job with attempts := job.attempts.set position { attempt with stage := .ended succeeded } } := by
  have unsettled : attempt.unsettled = true := by simp [Attempt.unsettled, running]
  cases orderly with
  | untouched record attempts =>
      rw [attempts] at present
      cases present
  | running earlier last attempts record lastUnsettled inTerm failed =>
      obtain ⟨isLast, rfl⟩ := last_of_unsettled attempts failed present unsettled
      refine .running earlier { attempt with stage := .ended succeeded } ?_ ?_ rfl inTerm failed
      · rw [isLast, attempts, List.set_append_right _ _ (Nat.le_refl _)]
        simp
      · rw [List.length_set]
        exact record
  | done earlier last stamp attempts record succeeded failed =>
      obtain ⟨_, rfl⟩ := last_of_unsettled attempts failed present unsettled
      rw [unsettled_of_settled succeeded] at unsettled
      cases unsettled
  | failed stamp record failed =>
      rw [failed attempt (List.mem_of_getElem? present)] at running
      cases running

theorem Orderly.settle (orderly : Orderly term job) {position : Nat} {attempt : Attempt} {succeeded : Bool}
    (present : job.attempts[position]? = some attempt) (ended : attempt.stage = .ended succeeded) (told : Bool) :
    Orderly term { job with
      record := job.record.map (Record.settle succeeded)
      attempts := job.attempts.set position { attempt with stage := .settled succeeded }
      told := told } := by
  have unsettled : attempt.unsettled = true := by simp [Attempt.unsettled, ended]
  cases orderly with
  | untouched record attempts =>
      rw [attempts] at present
      cases present
  | running earlier last attempts record lastUnsettled inTerm failed =>
      obtain ⟨isLast, rfl⟩ := last_of_unsettled attempts failed present unsettled
      have after : job.attempts.set position { attempt with stage := .settled succeeded } =
          earlier ++ [{ attempt with stage := .settled succeeded }] := by
        rw [isLast, attempts, List.set_append_right _ _ (Nat.le_refl _)]
        simp
      cases succeeded with
      | true =>
          refine .done earlier { attempt with stage := .settled true } attempt.begun after ?_ rfl failed
          simp [record, Record.settle]
      | false =>
          refine .failed attempt.begun ?_ fun other member => ?_
          · simp [record, Record.settle]
          · rw [after, List.mem_append, List.mem_singleton] at member
            rcases member with old | rfl
            · exact failed other old
            · rfl
  | done earlier last stamp attempts record succeeded failed =>
      obtain ⟨_, rfl⟩ := last_of_unsettled attempts failed present unsettled
      rw [unsettled_of_settled succeeded] at unsettled
      cases unsettled
  | failed stamp record failed =>
      rw [failed attempt (List.mem_of_getElem? present)] at ended
      cases ended

theorem Orderly.pass (orderly : Orderly term job) {duration : Nat} (timely : Timely term job (.pass duration)) :
    Orderly term { job with clock := job.clock + duration } := by
  cases orderly with
  | untouched record attempts => exact .untouched record attempts
  | running earlier last attempts record unsettled inTerm failed =>
      exact .running earlier last attempts record unsettled (timely last (by simp [attempts]) unsettled) failed
  | done earlier last stamp attempts record succeeded failed =>
      exact .done earlier last stamp attempts record succeeded failed
  | failed stamp record failed => exact .failed stamp record failed

theorem Orderly.told (orderly : Orderly term job) (told : Bool) : Orderly term { job with told := told } := by
  cases orderly with
  | untouched record attempts => exact .untouched record attempts
  | running earlier last attempts record unsettled inTerm failed =>
      exact .running earlier last attempts record unsettled inTerm failed
  | done earlier last stamp attempts record succeeded failed =>
      exact .done earlier last stamp attempts record succeeded failed
  | failed stamp record failed => exact .failed stamp record failed

theorem Orderly.step (orderly : Orderly term job) (event : Event) (timely : Timely term job event) :
    Orderly term (step term job event) := by
  cases event with
  | pass duration => exact orderly.pass timely
  | ask =>
      by_cases away : job.record.any (Record.keepsAway term job.clock) = true
      · rw [Lease.step, if_pos away]
        exact orderly.told true
      · rw [Lease.step, if_neg away]
        exact orderly.begin (by simpa using away)
  | finish position succeeded =>
      simp only [Lease.step]
      split
      · split
        · rename_i present running
          exact orderly.finish present running
        · exact orderly
      · exact orderly
  | settle position =>
      simp only [Lease.step]
      split
      · split
        · rename_i present _ _ ended
          exact orderly.settle present ended _
        · exact orderly
      · exact orderly

/-! What an orderly job answers. -/

theorem countWhere_failed {attempts : List Attempt} (failed : ∀ attempt ∈ attempts, attempt.stage = .settled false) :
    RowTable.countWhere Attempt.unsettled attempts = 0 := by
  refine List.countP_eq_zero.mpr fun attempt member => ?_
  simp [unsettled_of_settled (failed attempt member)]

theorem Orderly.atMostOne (orderly : Orderly term job) :
    RowTable.countWhere Attempt.unsettled job.attempts ≤ 1 := by
  cases orderly with
  | untouched record attempts =>
      rw [attempts]
      exact Nat.zero_le _
  | running earlier last attempts record unsettled inTerm failed =>
      rw [attempts, RowTable.countWhere_append, countWhere_failed failed]
      split <;> omega
  | done earlier last stamp attempts record succeeded failed =>
      rw [attempts, RowTable.countWhere_append, countWhere_failed failed]
      split <;> omega
  | failed stamp record failed =>
      rw [countWhere_failed failed]
      exact Nat.zero_le _

theorem Orderly.counted (orderly : Orderly term job) :
    (job.record.map Record.attempts).getD 0 = job.attempts.length := by
  cases orderly with
  | untouched record attempts => simp [record, attempts]
  | running earlier last attempts record unsettled inTerm failed => simp [record]
  | done earlier last stamp attempts record succeeded failed => simp [record]
  | failed stamp record failed => simp [record]

/-- Whoever asks begins an attempt exactly when every attempt so far has failed. -/
theorem Orderly.begins_iff (orderly : Orderly term job) :
    job.record.any (Record.keepsAway term job.clock) = false ↔
      ∀ attempt ∈ job.attempts, attempt.stage = .settled false := by
  cases orderly with
  | untouched record attempts => simp [record, attempts]
  | running earlier last attempts record unsettled inTerm failed =>
      have positive : 0 < job.attempts.length := by simp [attempts]
      constructor
      · intro open_
        simp [record, Record.keepsAway, positive, inTerm] at open_
      · intro allFailed
        rw [unsettled_of_settled (allFailed last (by simp [attempts]))] at unsettled
        cases unsettled
  | done earlier last stamp attempts record succeeded failed =>
      constructor
      · intro open_
        simp [record, Record.keepsAway] at open_
      · intro allFailed
        rw [allFailed last (by simp [attempts])] at succeeded
        cases succeeded
  | failed stamp record failed =>
      simpa [record, Record.keepsAway] using failed

theorem Orderly.all_failed (orderly : Orderly term job) {attempt : Attempt}
    (last : job.attempts.getLast? = some attempt) (settled : attempt.stage = .settled false) :
    ∀ other ∈ job.attempts, other.stage = .settled false := by
  cases orderly with
  | untouched record attempts =>
      rw [attempts] at last
      cases last
  | running earlier newest attempts record unsettled inTerm failed =>
      rw [attempts, List.getLast?_concat, Option.some.injEq] at last
      rw [last, unsettled_of_settled settled] at unsettled
      cases unsettled
  | done earlier newest stamp attempts record succeeded failed =>
      rw [attempts, List.getLast?_concat, Option.some.injEq] at last
      rw [last, settled] at succeeded
      cases succeeded
  | failed stamp record failed => exact failed

theorem step_ask_begins (open_ : job.record.any (Record.keepsAway term job.clock) = false) :
    step term job .ask = job.begin := by
  rw [step, if_neg (by simp [open_])]

theorem step_attempts (term : Nat) (job : Job) (event : Event) :
    (step term job event).attempts.length = job.attempts.length ∨
      job.record.any (Record.keepsAway term job.clock) = false := by
  cases event with
  | pass duration => exact .inl rfl
  | ask =>
      by_cases away : job.record.any (Record.keepsAway term job.clock) = true
      · rw [step, if_pos away]
        exact .inl rfl
      · exact .inr (by simpa using away)
  | finish position succeeded =>
      left
      simp only [step]
      split
      · split <;> simp
      · rfl
  | settle position =>
      left
      simp only [step]
      split
      · split <;> simp
      · rfl

end

def Underway (attempts : List Attempt) : Prop :=
  0 < RowTable.countWhere Attempt.unsettled attempts

def IsDone (record : Option Record) : Prop :=
  ∃ stored, record = some stored ∧ stored.mark = .done

/-- Once nobody is at it, whoever was told finds the job done. -/
def Job.Kept (job : Job) : Prop :=
  ¬ Underway job.attempts → job.told = true → IsDone job.record

structure Backed (job : Job) : Prop where
  fresh : job.record = none → job.attempts = [] ∧ job.told = false
  taken : ∀ record, job.record = some record → record.mark = .taken → Underway job.attempts
  kept : job.Kept

/-- A failure is settled only while nobody was told, or somebody else is at it too. -/
def Harmless (job : Job) : Event → Prop
  | .settle position => ∀ attempt, job.attempts[position]? = some attempt → attempt.stage = .ended false →
      job.told = false ∨ 1 < RowTable.countWhere Attempt.unsettled job.attempts
  | _ => True

section

variable {term : Nat} {job : Job}

theorem Backed.recorded (backed : Backed job) {position : Nat} {attempt : Attempt}
    (present : job.attempts[position]? = some attempt) : ∃ record, job.record = some record := by
  cases record : job.record with
  | some stored => exact ⟨stored, rfl⟩
  | none =>
      rw [(backed.fresh record).1] at present
      cases present

theorem underway_of_mem {attempts : List Attempt} (attempt : Attempt) (member : attempt ∈ attempts)
    (unsettled : attempt.unsettled = true) : Underway attempts :=
  List.countP_pos_iff.mpr ⟨attempt, member, unsettled⟩

theorem underway_begin (job : Job) : Underway job.begin.attempts :=
  underway_of_mem { begun := job.clock, stage := .running } (by simp [Job.begin]) rfl

theorem Backed.of_underway {record : Record} (recorded : job.record = some record)
    (underway : Underway job.attempts) : Backed job := by
  refine ⟨fun absent => ?_, fun _ _ _ => underway, fun idle _ => absurd underway idle⟩
  rw [recorded] at absent
  cases absent

theorem Backed.away (backed : Backed job) (away : job.record.any (Record.keepsAway term job.clock) = true) :
    Backed { job with told := true } := by
  obtain ⟨record, stored, keeps⟩ := (Option.any_eq_true _ _).mp away
  refine ⟨fun absent => ?_, backed.taken, fun idle _ => ⟨record, stored, ?_⟩⟩
  · rw [stored] at absent
    cases absent
  · simp only [Record.keepsAway, Bool.or_eq_true, Bool.and_eq_true, beq_iff_eq] at keeps
    rcases keeps with done | ⟨⟨taken, _⟩, _⟩
    · exact done
    · exact absurd (backed.taken record stored taken) idle

theorem underway_finish {position : Nat} {attempt : Attempt} (succeeded : Bool)
    (present : job.attempts[position]? = some attempt) :
    Underway (job.attempts.set position { attempt with stage := .ended succeeded }) :=
  underway_of_mem { attempt with stage := .ended succeeded }
    (List.mem_set (List.getElem?_eq_some_iff.mp present).1 _) rfl

theorem countWhere_settle {position : Nat} {attempt : Attempt} {succeeded : Bool} (settled : Bool)
    (present : job.attempts[position]? = some attempt) (ended : attempt.stage = .ended succeeded) :
    RowTable.countWhere Attempt.unsettled (job.attempts.set position { attempt with stage := .settled settled }) + 1 =
      RowTable.countWhere Attempt.unsettled job.attempts := by
  have unsettled : attempt.unsettled = true := by simp [Attempt.unsettled, ended]
  have after : ({ attempt with stage := .settled settled } : Attempt).unsettled = false := rfl
  have counted := RowTable.countWhere_set Attempt.unsettled { attempt with stage := .settled settled } present
  simpa [unsettled, after] using counted

theorem Backed.settle (backed : Backed job) {position : Nat} {attempt : Attempt} {succeeded : Bool}
    (present : job.attempts[position]? = some attempt) (ended : attempt.stage = .ended succeeded)
    (harmless : Harmless job (.settle position)) :
    Backed { job with
      record := job.record.map (Record.settle succeeded)
      attempts := job.attempts.set position { attempt with stage := .settled succeeded }
      told := job.told || succeeded } := by
  obtain ⟨record, stored⟩ := backed.recorded present
  refine ⟨fun absent => ?_, fun after isAfter taken => ?_, fun idle told => ?_⟩
  · simp [stored] at absent
  · rw [stored, Option.map_some, Option.some.injEq] at isAfter
    rw [← isAfter] at taken
    cases succeeded <;> cases taken
  · cases succeeded with
    | true => exact ⟨_, by rw [stored]; rfl, rfl⟩
    | false =>
        rw [Bool.or_false] at told
        have either : job.told = false ∨ 1 < RowTable.countWhere Attempt.unsettled job.attempts :=
          harmless attempt present ended
        rcases either with untold | others
        · rw [untold] at told
          cases told
        · have counted := countWhere_settle false present ended
          have underway : Underway (job.attempts.set position { attempt with stage := .settled false }) := by
            unfold Underway
            omega
          exact absurd underway idle

theorem Backed.step (backed : Backed job) (event : Event) (harmless : Harmless job event) :
    Backed (step term job event) := by
  cases event with
  | pass duration => exact ⟨backed.fresh, backed.taken, backed.kept⟩
  | ask =>
      by_cases away : job.record.any (Record.keepsAway term job.clock) = true
      · rw [Lease.step, if_pos away]
        exact backed.away away
      · rw [Lease.step, if_neg away]
        exact .of_underway rfl (underway_begin job)
  | finish position succeeded =>
      simp only [Lease.step]
      split
      · split
        · rename_i present _
          obtain ⟨record, recorded⟩ := backed.recorded present
          exact .of_underway recorded (underway_finish succeeded present)
        · exact backed
      · exact backed
  | settle position =>
      simp only [Lease.step]
      split
      · split
        · rename_i present _ _ ended
          exact backed.settle present ended harmless
        · exact backed
      · exact backed

theorem Backed.broken (backed : Backed job) {event : Event} (harmful : ¬ Harmless job event) :
    ¬ (Lease.step term job event).Kept := by
  cases event with
  | settle position =>
      simp only [Harmless, Classical.not_forall, not_or] at harmful
      obtain ⟨attempt, present, ended, told, alone⟩ := harmful
      obtain ⟨record, stored⟩ := backed.recorded present
      have after : Lease.step term job (.settle position) = { job with
          record := job.record.map (Record.settle false)
          attempts := job.attempts.set position { attempt with stage := .settled false }
          told := job.told || false } := by
        simp only [Lease.step, present, ended]
      rw [after]
      intro kept
      have idle : ¬ Underway (job.attempts.set position { attempt with stage := .settled false }) := by
        have counted := countWhere_settle false present ended
        unfold Underway
        omega
      obtain ⟨settled, isSettled, done⟩ := kept idle (by simpa using told)
      rw [stored, Option.map_some, Option.some.injEq] at isSettled
      rw [← isSettled] at done
      cases done
  | _ => exact absurd trivial harmful

end

end Lease
