import KernelTrace.Proofs.Origins
import KernelTrace.Proofs.PartialLoads

namespace KernelTrace

variable {S H K σ : Type}

/-- The entries to which the action adds those that it loads. -/
def Action.prior : Action S H K → List Entry
  | .append prior _ _ => prior
  | _ => []

namespace Session

variable {session later : Session S H K} {handle : Handle} {host : σ}
  {after : Session S H K × σ} {entries list : List Entry}

theorem clock_of_setClock {clock : Clock} (set : session.setClock handle clock = .ok later)
    {other : Handle} {stream : Stream S} (found : later.stream other = .ok stream) :
    ∃ clock, session.stream other = .ok { stream with clock } := by
  obtain ⟨before, opened, rfl⟩ := map_eq_ok.mp set
  by_cases same : other = handle
  · subst same
    rw [stream_modify, opened] at found
    cases found
    exact ⟨before.clock, opened⟩
  · rw [stream_modify_of_ne same] at found
    exact ⟨stream.clock, found⟩

variable [RecordSource S] [Plugin H σ]

/-- By some clock, a load of the entry's stream makes the entry: of one of its records, by its hooks
and filters, or as a loss marker. -/
def Yields (session : Session S H K) (entry : Entry) : Prop :=
  ∃ stream, session.stream entry.stream = .ok stream ∧
    ((∃ record ∈ session.records entry.stream, ∃ clock fired,
        { session.loader stream with clock }.Builds record fired entry) ∨
      ∃ record previous clock, entry = { session.loader stream with clock }.marker record previous)

theorem Yields.of_clocked {entry : Entry} (yields : later.Yields entry)
    (hooks : later.hooks = session.hooks) (settings : later.settings = session.settings)
    (clocked : ∀ stream, later.stream entry.stream = .ok stream →
      ∃ clock, session.stream entry.stream = .ok { stream with clock }) : session.Yields entry := by
  obtain ⟨stream, found, made⟩ := yields
  obtain ⟨clock, before⟩ := clocked stream found
  have records : later.records entry.stream = session.records entry.stream := by
    simp only [Session.records, found, before]
  have loader : ∀ clock, { later.loader stream with clock } =
      { session.loader { stream with clock } with clock } := by
    simp only [Session.loader, hooks, settings, implies_true]
  rw [records] at made
  simp only [loader] at made
  exact ⟨_, before, made⟩

theorem yields_of_readStream (sound : session.Sound)
    (keepsStream : ∀ hook ∈ session.hooks.hooks, Plugin.Keeps hook.plugin Entry.stream)
    (ran : runFrom (readStream handle) (session, host) = (.ok entries, after)) :
    ∀ entry ∈ entries, session.Yields entry := by
  intro entry member
  have own := streams_of_readStream sound keepsStream ran entry member
  obtain ⟨stream, loaded, found, _, outcome, rfl, _⟩ := readStream_eq_ok ran
  rw [Yields, own]
  refine ⟨stream, found, ?_⟩
  rcases Loader.mem_run outcome member with ⟨lane, read, record, present, makes⟩ | marker
  · obtain ⟨fired, builds⟩ := Loader.makes_iff_builds.mp makes
    have record_mem : record ∈ session.records handle := by
      rw [records, found]
      exact List.mem_flatten.mpr ⟨lane, read, present⟩
    exact .inl ⟨record, record_mem, stream.clock, fired, builds⟩
  · obtain ⟨record, previous, same⟩ := marker
    exact .inr ⟨record, previous, stream.clock, same⟩

theorem yields_of_load (sound : session.Sound)
    (keepsStream : ∀ hook ∈ session.hooks.hooks, Plugin.Keeps hook.plugin Entry.stream)
    (ran : runFrom (load handle) (session, host) = (.ok entries, after)) :
    ∀ entry ∈ entries, session.Yields entry := by
  intro entry member
  rw [load_eq] at ran
  have yields := yields_of_readStream sound.startProgress keepsStream ran entry member
  exact yields.of_clocked rfl rfl fun stream found => ⟨stream.clock, found⟩

variable [DecidableEq K] [Condition K]

theorem yields_of_append {prior merged : List Entry} {clock : Option Clock} (sound : session.Sound)
    (keepsStream : ∀ hook ∈ session.hooks.hooks, Plugin.Keeps hook.plugin Entry.stream)
    (ran : runFrom (append prior handle clock) (session, host) = (.ok merged, after)) :
    ∀ entry ∈ merged, entry ∈ prior ∨ session.Yields entry := by
  obtain ⟨ready, entries, loaded, clocked, read, rfl, _⟩ := append_eq_ok ran
  intro entry member
  rw [mergePair_eq_mergeTwo, mem_mergeTwo] at member
  refine member.imp_right fun new => ?_
  rcases clocked with ⟨_, rfl⟩ | ⟨clock, _, set⟩
  · exact yields_of_load sound keepsStream read entry new
  · have moved : Relation.ReflTransGen (Moves (.setClock handle clock)) session ready :=
      moves_of_updateStream (fun stream => ⟨stream.filters, some clock, rfl⟩) set
    have readySound := sound_of_moves moved sound
    obtain ⟨_, _, rfl⟩ := map_eq_ok.mp set
    have yields := yields_of_load readySound keepsStream read entry new
    exact yields.of_clocked rfl rfl fun stream => clock_of_setClock set

theorem yields_of_fold {done : List Handle} {start merged : List Entry} (sound : session.Sound)
    (keepsStream : ∀ hook ∈ session.hooks.hooks, Plugin.Keeps hook.plugin Entry.stream)
    (distinct : done.Nodup)
    (ran : runFrom (done.foldlM mergeNext start) (session, host) = (.ok merged, after)) :
    ∀ entry ∈ merged, entry ∈ start ∨ entry.stream ∈ done ∧ session.Yields entry := by
  -- each stream is loaded from what the loads before it leave, and those leave it alone
  induction done generalizing session start host with
  | nil =>
      cases ran
      exact fun entry member => .inl member
  | cons handle others ih =>
      obtain ⟨absent, distinct⟩ := List.nodup_cons.mp distinct
      rw [List.foldlM_cons] at ran
      obtain ⟨_, middle, first, rest⟩ := runFrom_bind_eq_ok ran
      obtain ⟨entries, _, read, given⟩ := runFrom_bind_eq_ok first
      cases given
      have partly := partlyLoaded_of_readStream read
      have middleSound := sound_of_step (.load handle) (follows_readStream handle) sound read
      have keepsAfter := keepsStream
      rw [← partly.hooks] at keepsAfter
      intro entry member
      rcases ih middleSound keepsAfter distinct rest entry member with
        early | ⟨late, yields⟩
      · rw [mergePair_eq_mergeTwo, mem_mergeTwo] at early
        refine early.imp_right fun new => ⟨?_, yields_of_readStream sound keepsStream read _ new⟩
        rw [streams_of_readStream sound keepsStream read entry new]
        exact List.mem_cons_self
      · have differ : entry.stream ∉ [handle] := by
          rw [List.mem_singleton]
          exact ne_of_mem_of_not_mem late absent
        refine .inr ⟨List.mem_cons_of_mem handle late, ?_⟩
        apply yields.of_clocked partly.hooks partly.settings
        intro stream found
        rw [partly.kept entry.stream differ] at found
        exact ⟨stream.clock, found⟩

/-- Every entry that an action loads is one that its stream yields. -/
theorem yields_of_answers {action : Action S H K} (sound : session.Sound)
    (keepsStream : ∀ hook ∈ session.hooks.hooks, Plugin.Keeps hook.plugin Entry.stream)
    (loads : action.loads = true) (answers : Answers action (session, host) list after) :
    ∀ entry ∈ list, entry ∈ action.prior ∨ session.Yields entry := by
  cases answers with
  | load ran => exact fun entry member => .inr (yields_of_load sound keepsStream ran entry member)
  | loadAll ran =>
      obtain ⟨_, folded, _⟩ := loadAll_eq_ok ran
      have yields := yields_of_fold sound.startProgress keepsStream sound.handles_nodup folded
      intro entry member
      rcases yields entry member with none | ⟨_, yields⟩
      · cases none
      · exact .inr (yields.of_clocked rfl rfl fun stream found => ⟨stream.clock, found⟩)
  | append ran => exact yields_of_append sound keepsStream ran
  | refilter | refilterAll | clearFilters => cases loads

end Session

end KernelTrace
