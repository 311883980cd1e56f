import KernelTrace.Proofs.Verdicts

namespace KernelTrace

def Subject.idOf : Subject → Entry → Int32
  | task, entry => entry.pid
  | event, entry => entry.eventId
  | cpu, entry => entry.cpu

/-- The bits that stay although the id of this subject is unwanted. -/
def Subject.spared (mask : UInt8) : Subject → UInt8
  | event => View.graph ||| View.untouched
  | task | cpu => ~~~mask

def Within (mask other : UInt8) : Prop := ∀ bit, bitOf mask bit → bitOf other bit

namespace Filters

variable {filters changed : Filters} {subject other : Subject} {mask : UInt8} {entry : Entry}
  {id added : Int32}

def share (filters : Filters) (mask : UInt8) (entry : Entry) (subject : Subject) : UInt8 :=
  if (filters.gate subject).passes (subject.idOf entry) then View.all else subject.spared mask

theorem bitOf_share {i : Nat} (bound : i < 8) :
    bitOf (filters.share mask entry subject) i =
      ((filters.gate subject).passes (subject.idOf entry) || bitOf (subject.spared mask) i) := by
  unfold share
  cases (filters.gate subject).passes (subject.idOf entry)
  · rfl
  · exact bitOf_all bound

theorem share_congr (same : changed.gate subject = filters.gate subject) :
    changed.share mask entry subject = filters.share mask entry subject := by
  rw [share, share, same]

theorem visibility_eq_shares (filters : Filters) (entry : Entry) (mask : UInt8) :
    filters.visibility entry mask =
      filters.share mask entry .event &&& filters.share mask entry .cpu &&&
        filters.share mask entry .task := by
  apply eq_of_bits
  intro i bound
  rw [visibility, bitOf_restrict bound, bitOf_all bound, Bool.true_and, Bool.true_and]
  simp only [bitOf_and, bitOf_share bound, gate, Subject.idOf, Subject.spared, bitOf_not bound]
  cases filters.cpu.passes entry.cpu <;> cases filters.task.passes entry.pid <;>
    cases bitOf mask i <;> simp

theorem visibility_of_others (filters : Filters) (entry : Entry) (mask : UInt8)
    (subject : Subject) :
    ∃ others, ∀ changed : Filters,
      (∀ other, other ≠ subject → changed.gate other = filters.gate other) →
        changed.visibility entry mask = changed.share mask entry subject &&& others := by
  cases subject with
  | task =>
      refine ⟨filters.share mask entry .event &&& filters.share mask entry .cpu, ?_⟩
      intro changed agree
      rw [visibility_eq_shares, share_congr (agree .event (by decide)),
        share_congr (agree .cpu (by decide)), UInt8.and_comm]
  | event =>
      refine ⟨filters.share mask entry .cpu &&& filters.share mask entry .task, ?_⟩
      intro changed agree
      rw [visibility_eq_shares, share_congr (agree .cpu (by decide)),
        share_congr (agree .task (by decide)), UInt8.and_assoc]
  | cpu =>
      refine ⟨filters.share mask entry .event &&& filters.share mask entry .task, ?_⟩
      intro changed agree
      rw [visibility_eq_shares, share_congr (agree .event (by decide)),
        share_congr (agree .task (by decide)), UInt8.and_comm (filters.share mask entry .event),
        UInt8.and_assoc]

section

variable (agree : ∀ other, other ≠ subject → changed.gate other = filters.gate other)

include agree

theorem visibility_of_same_verdict
    (same : (changed.gate subject).passes (subject.idOf entry) =
      (filters.gate subject).passes (subject.idOf entry)) :
    changed.visibility entry mask = filters.visibility entry mask := by
  obtain ⟨others, split⟩ := filters.visibility_of_others entry mask subject
  rw [split changed agree, split filters fun _ _ => rfl, share, share, same]

theorem visibility_of_refused
    (refused : (changed.gate subject).passes (subject.idOf entry) = false) :
    changed.visibility entry mask = filters.visibility entry mask &&& subject.spared mask := by
  obtain ⟨others, split⟩ := filters.visibility_of_others entry mask subject
  rw [split changed agree, split filters fun _ _ => rfl]
  apply eq_of_bits
  intro i bound
  simp only [bitOf_and, bitOf_share bound, refused, Bool.false_or]
  cases (filters.gate subject).passes (subject.idOf entry) <;>
    cases bitOf (subject.spared mask) i <;> simp

theorem visibility_within
    (grows : (filters.gate subject).passes (subject.idOf entry) →
      (changed.gate subject).passes (subject.idOf entry)) :
    Within (filters.visibility entry mask) (changed.visibility entry mask) := by
  obtain ⟨others, split⟩ := filters.visibility_of_others entry mask subject
  rw [split changed agree, split filters fun _ _ => rfl]
  intro bit present
  have bound : bit < 8 := by
    by_contra beyond
    rw [bitOf_of_le (Nat.le_of_not_lt beyond)] at present
    cases present
  rw [bitOf_and, bitOf_share bound, Bool.and_eq_true, Bool.or_eq_true] at present ⊢
  exact ⟨present.1.imp_left grows, present.2⟩

end

theorem gate_put_of_ne (filters : Filters) (side : Side) (ids : IdSet) (apart : other ≠ subject) :
    (filters.put subject side ids).gate other = filters.gate other := by
  cases subject <;> cases other <;> simp [put, gate] at apart ⊢

theorem passes_add_hidden :
    ((filters.add ⟨subject, .hidden, added⟩).gate subject).passes id ↔
      (filters.gate subject).passes id ∧ id ≠ added := by
  simp only [passes_iff, ids_add, reduceCtorEq, and_false, and_self, if_false, if_true,
    IdSet.mem_insert, not_or, and_assoc, and_comm (a := id ≠ added)]

theorem passes_add_shown :
    ((filters.add ⟨subject, .shown, added⟩).gate subject).passes id ↔
      (id = added ∨ id ∈ (filters.ids subject .shown).ids) ∧
        id ∉ (filters.ids subject .hidden).ids := by
  have some : (filters.ids subject .shown).insert added ≠ ∅ :=
    fun none => IdSet.eq_empty_iff.mp none added (IdSet.mem_insert.mpr (.inl rfl))
  simp only [passes_iff, ids_add, reduceCtorEq, and_false, and_self, if_false, if_true,
    IdSet.mem_insert, some, false_or]

theorem passes_clear (side : Side) (passes : (filters.gate subject).passes id) :
    ((filters.clear subject side).gate subject).passes id := by
  rw [passes_iff] at passes ⊢
  cases side with
  | shown =>
      simp only [ids_clear, and_self, reduceCtorEq, and_false, if_true, if_false]
      exact ⟨.inl trivial, passes.2⟩
  | hidden =>
      simp only [ids_clear, and_self, reduceCtorEq, and_false, if_true, if_false]
      exact ⟨passes.1, IdSet.not_mem_empty⟩

/-- One more id changes exactly the entries it should. A hidden one takes from the entries that have
it what its subject does not spare. Of shown ones the first takes the same from all other entries,
and a later one takes nothing and can give back only to the entries that have it. A set that is
cleared gives back only. -/
theorem rules_change_their_entries (filters : Filters) (rule : IdRule) (entry : Entry)
    (mask : UInt8) :
    (rule.side = .hidden →
      (filters.add rule).visibility entry mask =
        if rule.subject.idOf entry = rule.id then
          filters.visibility entry mask &&& rule.subject.spared mask
        else filters.visibility entry mask) ∧
    (rule.side = .shown → filters.ids rule.subject .shown ≠ ∅ →
      if rule.subject.idOf entry = rule.id then
        Within (filters.visibility entry mask) ((filters.add rule).visibility entry mask)
      else (filters.add rule).visibility entry mask = filters.visibility entry mask) ∧
    (rule.side = .shown → filters.ids rule.subject .shown = ∅ →
      (filters.add rule).visibility entry mask =
        if rule.subject.idOf entry = rule.id then filters.visibility entry mask
        else filters.visibility entry mask &&& rule.subject.spared mask) ∧
    ∀ subject side,
      Within (filters.visibility entry mask)
        ((filters.clear subject side).visibility entry mask) := by
  obtain ⟨subject, side, id⟩ := rule
  have agree : ∀ other, other ≠ subject →
      (filters.add ⟨subject, side, id⟩).gate other = filters.gate other :=
    fun other apart => filters.gate_put_of_ne side _ apart
  refine ⟨?_, ?_, ?_, ?_⟩
  · rintro rfl
    split
    · rename_i own
      apply visibility_of_refused agree
      rw [← Bool.not_eq_true, passes_add_hidden, own]
      exact fun passes => passes.2 rfl
    · rename_i foreign
      apply visibility_of_same_verdict agree
      rw [Bool.eq_iff_iff, passes_add_hidden]
      exact and_iff_left foreign
  · rintro rfl some
    split
    · rename_i own
      apply visibility_within agree
      rw [passes_add_shown, passes_iff]
      exact fun passes => ⟨.inl own, passes.2⟩
    · rename_i foreign
      apply visibility_of_same_verdict agree
      rw [Bool.eq_iff_iff, passes_add_shown, passes_iff, or_iff_right foreign, or_iff_right some]
  · rintro rfl none
    have empty := IdSet.eq_empty_iff.mp none
    split
    · rename_i own
      apply visibility_of_same_verdict agree
      rw [Bool.eq_iff_iff, passes_add_shown, passes_iff]
      exact and_congr_left' (iff_of_true (.inl own) (.inl none))
    · rename_i foreign
      apply visibility_of_refused agree
      rw [← Bool.not_eq_true, passes_add_shown]
      exact fun passes => empty _ (passes.1.resolve_left foreign)
  · intro subject side
    exact visibility_within (fun other apart => filters.gate_put_of_ne side ∅ apart)
      (passes_clear side)

def crowded : Filters := [⟨.event, .shown, 4⟩, ⟨.task, .hidden, 7⟩, ⟨.cpu, .hidden, 3⟩].foldl add {}

def cornered : Entry := ⟨⟨0, 0⟩, 1, 5, 2, 10, 0, 0⟩

theorem rules_change_cornered :
    crowded.visibility cornered View.text = View.graph ||| View.untouched ∧
      (crowded.add ⟨.task, .hidden, 5⟩).visibility cornered View.graph = View.untouched ∧
      Within (View.graph ||| View.untouched)
        ((crowded.add ⟨.event, .shown, 2⟩).visibility cornered View.text) ∧
      (crowded.add ⟨.task, .shown, 8⟩).visibility cornered View.graph = View.untouched := by
  have before : crowded.visibility cornered View.text = View.graph ||| View.untouched := by decide
  refine ⟨before, ?_, ?_, ?_⟩
  · exact (rules_change_their_entries crowded ⟨.task, .hidden, 5⟩ cornered View.graph).1 rfl
  · have gains : Within (crowded.visibility cornered View.text) _ :=
      (rules_change_their_entries crowded ⟨.event, .shown, 2⟩ cornered View.text).2.1 rfl (by decide)
    rwa [before] at gains
  · exact (rules_change_their_entries crowded ⟨.task, .shown, 8⟩ cornered View.graph).2.2.1 rfl
      (by decide)

end Filters

end KernelTrace
