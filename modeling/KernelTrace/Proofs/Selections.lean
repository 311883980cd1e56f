import KernelTrace.Command.Dump
import KernelTrace.Proofs.Verdicts

namespace KernelTrace

namespace IdSet

variable {ids : List Int32} {id : Int32}

theorem contains_ofList : (ofList ids).contains id = ids.contains id := by
  rw [Bool.eq_iff_iff, contains_iff, List.contains_iff_mem, mem_ofList]

theorem isEmpty_ofList : (ofList ids).isEmpty = ids.isEmpty := by
  rw [Bool.eq_iff_iff, isEmpty_iff, eq_empty_iff, List.isEmpty_iff,
    List.eq_nil_iff_forall_not_mem]
  simp only [mem_ofList]

end IdSet

namespace Filters

theorem ids_addAll (rules : List IdRule) (filters : Filters) (subject : Subject) (side : Side) :
    (rules.foldl add filters).ids subject side =
      (filters.ids subject side).insertMany
        ((rules.filter fun rule => rule.subject = subject ∧ rule.side = side).map (·.id)) := by
  induction rules generalizing filters with
  | nil => rfl
  | cons rule rules ih =>
      rw [List.foldl_cons, ih, ids_add]
      by_cases here : rule.subject = subject ∧ rule.side = side
      · rw [if_pos here, List.filter_cons_of_pos (by simpa using here)]
        rfl
      · rw [if_neg here, List.filter_cons_of_neg (by simpa using here)]

theorem content_addAll (rules : List IdRule) (filters : Filters) :
    (rules.foldl add filters).content = filters.content := by
  induction rules generalizing filters with
  | nil => rfl
  | cons rule rules ih =>
      rw [List.foldl_cons, ih]
      rcases rule with ⟨_ | _ | _, _ | _, _⟩ <;> rfl

end Filters

namespace Options

variable {options : Options}

def filters (options : Options) : Filters := options.rules.foldl Filters.add {}

def ruledIds (options : Options) : Subject → Side → List Int32
  | .task, .hidden => options.hidePids
  | .event, .shown => options.showEvents
  | .cpu, .hidden => options.hideCpus
  | _, _ => []

theorem ids_filters (subject : Subject) (side : Side) :
    options.filters.ids subject side = .ofList (options.ruledIds subject side) := by
  have none : ({} : Filters).ids subject side = ∅ := by cases subject <;> cases side <;> rfl
  rw [filters, Filters.ids_addAll, none, IdSet.ofList]
  cases subject <;> cases side <;>
    simp [rules, ruledIds, List.filter_append, List.filter_map, Function.comp_def]

theorem passes_gate (subject : Subject) (id : Int32) :
    (options.filters.gate subject).passes id =
      (((options.ruledIds subject .shown).isEmpty ||
        (options.ruledIds subject .shown).contains id) &&
          !(options.ruledIds subject .hidden).contains id) := by
  have shown : (options.filters.gate subject).shown = .ofList (options.ruledIds subject .shown) :=
    ids_filters subject .shown
  have hidden :
      (options.filters.gate subject).hidden = .ofList (options.ruledIds subject .hidden) :=
    ids_filters subject .hidden
  rw [IdGate.passes, shown, hidden, IdSet.isEmpty_ofList, IdSet.contains_ofList,
    IdSet.contains_ofList]

theorem content_filters : options.filters.content = none := Filters.content_addAll _ _

/-- The mask that the options leave an entry with these ids. -/
def views (options : Options) (mask : UInt8) (eventId pid cpu : Int32) : UInt8 :=
  (if options.showEvents.isEmpty || options.showEvents.contains eventId then View.all
    else View.graph ||| View.untouched) &&&
  (if options.hideCpus.contains cpu then ~~~mask else View.all) &&&
  (if options.hidePids.contains pid then ~~~mask else View.all)

/-- Whether the options want the entry of a record with these ids shown. -/
def wants (options : Options) (mask : UInt8) (eventId pid cpu : Int32) : Bool :=
  (options.showEvents.isEmpty || options.showEvents.contains eventId) &&
    (mask &&& View.text = 0 || !options.hidePids.contains pid && !options.hideCpus.contains cpu)

theorem visibility_filters (options : Options) (mask : UInt8) (entry : Entry) :
    options.filters.visibility entry mask =
      options.views mask entry.eventId entry.pid entry.cpu := by
  have task := options.passes_gate .task entry.pid
  have event := options.passes_gate .event entry.eventId
  have cpu := options.passes_gate .cpu entry.cpu
  simp only [Filters.gate, ruledIds] at task event cpu
  apply eq_of_bits
  intro i bound
  rw [Filters.visibility, Filters.bitOf_restrict bound, task, event, cpu, views, bitOf_and, bitOf_and]
  cases options.showEvents.isEmpty || options.showEvents.contains entry.eventId <;>
    cases options.hideCpus.contains entry.cpu <;> cases options.hidePids.contains entry.pid <;>
      simp [bitOf_not bound, bitOf_all bound]

theorem text_of_views (options : Options) (mask : UInt8) (eventId pid cpu : Int32) :
    decide (options.views mask eventId pid cpu &&& View.text ≠ 0) =
      options.wants mask eventId pid cpu := by
  have kept : bitOf (View.graph ||| View.untouched) 1 = false := rfl
  have text : decide (mask &&& View.text = 0) = !bitOf mask 1 := by
    rw [Bool.eq_iff_iff, decide_eq_true_eq, text_clear_iff, Bool.not_eq_true']
  rw [Bool.eq_iff_iff, decide_eq_true_eq, ne_eq, text_clear_iff, Bool.not_eq_false, wants, text,
    views, bitOf_and, bitOf_and]
  cases options.showEvents.isEmpty || options.showEvents.contains eventId <;>
    cases options.hideCpus.contains cpu <;> cases options.hidePids.contains pid <;>
      simp [kept, bitOf_not, bitOf_all]

end Options

end KernelTrace
