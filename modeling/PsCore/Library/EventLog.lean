/-!
What a log of events says about the order of events, and what one more event
at its end has to meet for the log to go on saying it.
-/

namespace EventLog

variable {Event : Type}

/-- Between any two marks there is a divider. -/
def Separated (mark divider : Event → Prop) (log : List Event) : Prop :=
  ∀ earlier first between second later, log = earlier ++ first :: (between ++ second :: later) →
    mark first → mark second → ∃ event ∈ between, divider event

/-- After every mark there is a reply. -/
def Followed (mark reply : Event → Prop) (log : List Event) : Prop :=
  ∀ earlier event later, log = earlier ++ event :: later → mark event → ∃ other ∈ later, reply other

/-- After a stop there is no mark. -/
def NeverAfter (stop mark : Event → Prop) (log : List Event) : Prop :=
  ∀ earlier event later, log = earlier ++ event :: later → stop event → ∀ other ∈ later, ¬ mark other

def Standing (mark stop : Event → Prop) (log : List Event) : Prop :=
  ∃ earlier event later, log = earlier ++ event :: later ∧ mark event ∧ ∀ other ∈ later, ¬ stop other

variable {mark divider reply stop : Event → Prop} {log : List Event} {event : Event}

theorem concat_split {earlier later : List Event} {found : Event} :
    log ++ [event] = earlier ++ found :: later ↔
      (log = earlier ∧ event = found ∧ later = []) ∨
        ∃ rest, log = earlier ++ found :: rest ∧ later = rest ++ [event] := by
  constructor
  · intro split
    rcases List.eq_nil_or_concat later with rfl | ⟨rest, last, rfl⟩
    · obtain ⟨same, last⟩ := List.append_inj' split rfl
      exact .inl ⟨same, List.head_eq_of_cons_eq last, rfl⟩
    · rw [List.concat_eq_append, ← List.cons_append, ← List.append_assoc] at split
      obtain ⟨same, ends⟩ := List.append_inj' split rfl
      exact .inr ⟨rest, same, by rw [List.concat_eq_append, List.head_eq_of_cons_eq ends]⟩
  · rintro (⟨rfl, rfl, rfl⟩ | ⟨rest, rfl, rfl⟩)
    · rfl
    · rw [List.append_assoc, List.cons_append]

@[simp] theorem separated_nil : Separated mark divider ([] : List Event) := by
  intro earlier first between second later split
  simp at split

@[simp] theorem followed_nil : Followed mark reply ([] : List Event) := by
  intro earlier event later split
  simp at split

@[simp] theorem neverAfter_nil : NeverAfter stop mark ([] : List Event) := by
  intro earlier event later split
  simp at split

@[simp] theorem separated_concat : Separated mark divider (log ++ [event]) ↔
    Separated mark divider log ∧ (mark event → Followed mark divider log) := by
  constructor
  · intro separated
    refine ⟨fun earlier first between second later split => ?_, fun marked earlier first later split isFirst => ?_⟩
    · exact separated earlier first between second (later ++ [event]) (by simp [split])
    · exact separated earlier first later event [] (by simp [split]) isFirst marked
  · rintro ⟨separated, followed⟩ earlier first between second later split isFirst isSecond
    rw [← List.cons_append, ← List.append_assoc] at split
    rcases concat_split.mp split with ⟨rfl, rfl, rfl⟩ | ⟨rest, split, -⟩
    · exact followed isSecond earlier first between rfl isFirst
    · exact separated earlier first between second rest (by simp [split]) isFirst isSecond

@[simp] theorem followed_concat : Followed mark reply (log ++ [event]) ↔
    ¬ mark event ∧ (reply event ∨ Followed mark reply log) := by
  constructor
  · intro followed
    refine ⟨fun marked => ?_, Classical.or_iff_not_imp_left.mpr fun noReply earlier first later split isFirst => ?_⟩
    · obtain ⟨other, member, -⟩ := followed log event [] rfl marked
      cases member
    · obtain ⟨other, member, isReply⟩ := followed earlier first (later ++ [event]) (by simp [split]) isFirst
      rcases List.mem_append.mp member with member | member
      · exact ⟨other, member, isReply⟩
      · rw [List.mem_singleton.mp member] at isReply
        exact absurd isReply noReply
  · rintro ⟨unmarked, either⟩ earlier first later split isFirst
    rcases concat_split.mp split with ⟨rfl, rfl, rfl⟩ | ⟨rest, before, rfl⟩
    · exact absurd isFirst unmarked
    · rcases either with isReply | followed
      · exact ⟨event, by simp, isReply⟩
      · obtain ⟨other, member, isReply⟩ := followed earlier first rest before isFirst
        exact ⟨other, List.mem_append_left _ member, isReply⟩

@[simp] theorem neverAfter_concat : NeverAfter stop mark (log ++ [event]) ↔
    NeverAfter stop mark log ∧ (mark event → ∀ other ∈ log, ¬ stop other) := by
  constructor
  · intro never
    refine ⟨fun earlier first later split isStop other member => ?_, fun marked other member isStop => ?_⟩
    · exact never earlier first (later ++ [event]) (by simp [split]) isStop other (List.mem_append_left _ member)
    · obtain ⟨earlier, later, split⟩ := List.append_of_mem member
      exact never earlier other (later ++ [event]) (by simp [split]) isStop event (by simp) marked
  · rintro ⟨never, unstopped⟩ earlier first later split isStop other member
    rcases concat_split.mp split with ⟨rfl, rfl, rfl⟩ | ⟨rest, before, rfl⟩
    · cases member
    · rcases List.mem_append.mp member with member | member
      · exact never earlier first rest before isStop other member
      · rw [List.mem_singleton.mp member]
        exact fun marked => unstopped marked first (by simp [before]) isStop

theorem Standing.marked (standing : Standing mark stop log) : ∃ event ∈ log, mark event := by
  obtain ⟨earlier, event, later, rfl, isMark, -⟩ := standing
  exact ⟨event, by simp, isMark⟩

theorem standing_of_unstopped {event : Event} (member : event ∈ log) (isMark : mark event)
    (unstopped : ∀ other ∈ log, ¬ stop other) : Standing mark stop log := by
  obtain ⟨earlier, later, rfl⟩ := List.append_of_mem member
  exact ⟨earlier, event, later, rfl, isMark, fun other inLater => unstopped other (by simp [inLater])⟩

@[simp] theorem standing_concat : Standing mark stop (log ++ [event]) ↔
    mark event ∨ Standing mark stop log ∧ ¬ stop event := by
  constructor
  · rintro ⟨earlier, first, later, split, isMark, unstopped⟩
    rcases concat_split.mp split with ⟨rfl, rfl, rfl⟩ | ⟨rest, before, rfl⟩
    · exact .inl isMark
    · refine .inr ⟨⟨earlier, first, rest, before, isMark, fun other member => ?_⟩, unstopped event (by simp)⟩
      exact unstopped other (List.mem_append_left _ member)
  · rintro (isMark | ⟨⟨earlier, first, later, rfl, isMark, unstopped⟩, notStop⟩)
    · exact ⟨log, event, [], rfl, isMark, nofun⟩
    · refine ⟨earlier, first, later ++ [event], by simp, isMark, fun other member => ?_⟩
      rcases List.mem_append.mp member with member | member
      · exact unstopped other member
      · rw [List.mem_singleton.mp member]
        exact notStop

end EventLog
