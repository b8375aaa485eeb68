import Analytics.Proofs.Registry.Runs

/-!
Calls side by side. A call for the list of applications looks at what is kept and, if that is nothing,
fills it; a call with another text reads the text and then takes it over. Each of these sections is
one step, and the steps of any number of calls come in any order. Every answer is what a text lists
that was in force while the call was under way.
-/

namespace Analytics

inductive CacheTask where
  | looking
  /-- Nothing was kept. -/
  | filling
  | listed (answer : Except ApplicationsFault (List Application))
  | reading (raw : String)
  /-- The text has been read, and is yet to be taken over. -/
  | installing (raw : String) (applications : List Application)
  | reloaded (raw : String) (answer : Except ApplicationsFault Nat)

namespace CacheTask

/-- The next section of a call. A call that has answered does nothing more. -/
def step (c : ApplicationCache) : CacheTask → CacheTask × ApplicationCache
  | looking =>
    match c.peek with
    | some applications => (listed (.ok applications), c)
    | none => (filling, c)
  | filling => (listed c.fill.1, c.fill.2)
  | reading raw =>
    match Application.parseList raw with
    | .ok applications => (installing raw applications, c)
    | .error fault => (reloaded raw (.error fault), c)
  | installing raw applications =>
    (reloaded raw (.ok applications.length), c.install raw applications)
  | listed answer => (listed answer, c)
  | reloaded raw answer => (reloaded raw answer, c)

theorem step_looking (c : ApplicationCache) : step c looking =
    match c.peek with
    | some applications => (listed (.ok applications), c)
    | none => (filling, c) := rfl

theorem step_reading (c : ApplicationCache) (raw : String) : step c (reading raw) =
    match Application.parseList raw with
    | .ok applications => (installing raw applications, c)
    | .error fault => (reloaded raw (.error fault), c) := rfl

def isAsking : CacheTask → Bool
  | looking | filling => true
  | _ => false

def isReloading : CacheTask → Bool
  | reading _ | installing _ _ => true
  | _ => false

end CacheTask

inductive CacheCall where
  | applications
  | reload (raw : String)

def CacheCall.task : CacheCall → CacheTask
  | applications => .looking
  | reload raw => .reading raw

/-- A call begins, or the call at a place goes on with its next section. -/
inductive CacheEvent where
  | start (call : CacheCall)
  | advance (place : Nat)

structure SharedCache where
  cache : ApplicationCache
  tasks : List CacheTask

namespace SharedCache

def ofText (raw : String) : SharedCache := ⟨.ofText raw, []⟩

def next (s : SharedCache) : CacheEvent → SharedCache
  | .start call => { s with tasks := s.tasks ++ [call.task] }
  | .advance place =>
    match s.tasks[place]? with
    | some task => ⟨(task.step s.cache).2, s.tasks.set place (task.step s.cache).1⟩
    | none => s

def run (s : SharedCache) (events : List CacheEvent) : SharedCache := events.foldl next s

variable {s : SharedCache} {event : CacheEvent} {place : Nat}

theorem run_append (s : SharedCache) (events later : List CacheEvent) :
    s.run (events ++ later) = (s.run events).run later := List.foldl_append

theorem next_advance {task : CacheTask} (there : s.tasks[place]? = some task) :
    s.next (.advance place)
      = ⟨(task.step s.cache).2, s.tasks.set place (task.step s.cache).1⟩ := by
  simp only [next, there]

theorem next_absent (absent : s.tasks[place]? = none) : s.next (.advance place) = s := by
  simp only [next, absent]

theorem run_applications (c : ApplicationCache) :
    (⟨c, []⟩ : SharedCache).run [.start .applications, .advance 0, .advance 0]
      = ⟨c.applications.2, [.listed c.applications.1]⟩ := by
  simp only [run, List.foldl, next, CacheCall.task, List.nil_append, List.getElem?_cons_zero,
    List.set_cons_zero, CacheTask.step, ApplicationCache.applications]
  cases c.peek <;> rfl

theorem run_reload (c : ApplicationCache) (raw : String) :
    (⟨c, []⟩ : SharedCache).run [.start (.reload raw), .advance 0, .advance 0]
      = ⟨(c.reload raw).2, [.reloaded raw (c.reload raw).1]⟩ := by
  simp only [run, List.foldl, next, CacheCall.task, List.nil_append, List.getElem?_cons_zero,
    List.set_cons_zero, CacheTask.step, ApplicationCache.reload]
  cases Application.parseList raw <;> rfl

theorem task_next {task : CacheTask} (there : (s.next event).tasks[place]? = some task) :
    s.tasks[place]? = some task ∨
      (event = .advance place ∧ ∃ before, s.tasks[place]? = some before ∧
        task = (before.step s.cache).1) ∨
      (place = s.tasks.length ∧ ∃ call, event = .start call ∧ task = call.task) := by
  cases event with
  | start call =>
    simp only [next, List.getElem?_append] at there
    split at there
    · exact .inl there
    · rename_i late
      have first : place - s.tasks.length = 0 := by
        by_contra more
        rw [List.getElem?_eq_none (by simp; omega)] at there
        cases there
      rw [first] at there
      exact .inr (.inr ⟨by omega, call, rfl, (Option.some.inj there).symm⟩)
  | advance other =>
    simp only [next] at there
    cases found : s.tasks[other]? with
    | none =>
      rw [found] at there
      exact .inl there
    | some before =>
      simp only [found] at there
      by_cases own : other = place
      · subst own
        have inside : other < s.tasks.length := (List.getElem?_eq_some_iff.mp found).1
        rw [List.getElem?_set_self inside] at there
        exact .inr (.inl ⟨rfl, before, found, (Option.some.inj there).symm⟩)
      · rw [List.getElem?_set_ne own] at there
        exact .inl there

/-- Any number of calls under way leave a list that is kept the one that the text holds, and what a
call is about to take over is what its text lists. -/
structure IsSound (s : SharedCache) : Prop where
  faithful : s.cache.IsFaithful
  read : ∀ (place : Nat) raw applications,
    s.tasks[place]? = some (CacheTask.installing raw applications) →
    Application.parseList raw = .ok applications

namespace IsSound

theorem ofText (raw : String) : (ofText raw).IsSound where
  faithful := ApplicationCache.ofText_faithful raw
  read place _ _ there := by
    rw [show (SharedCache.ofText raw).tasks = [] from rfl, List.getElem?_nil] at there
    cases there

theorem step_faithful (sound : s.IsSound) {task : CacheTask} (there : s.tasks[place]? = some task) :
    (task.step s.cache).2.IsFaithful := by
  cases task with
  | looking =>
    rw [CacheTask.step_looking]
    cases s.cache.peek <;> exact sound.faithful
  | filling => exact (ApplicationCache.fill_faithful sound.faithful).2.2
  | reading raw =>
    rw [CacheTask.step_reading]
    cases Application.parseList raw <;> exact sound.faithful
  | installing raw applications =>
    rintro _ ⟨⟩
    exact sound.read place raw applications there
  | listed | reloaded => exact sound.faithful

theorem next (sound : s.IsSound) (event : CacheEvent) : (s.next event).IsSound where
  faithful := by
    cases event with
    | start call => exact sound.faithful
    | advance place =>
      cases there : s.tasks[place]? with
      | none =>
        rw [next_absent there]
        exact sound.faithful
      | some task =>
        rw [next_advance there]
        exact sound.step_faithful there
  read place raw applications there := by
    obtain same | ⟨-, before, found, stepped⟩ | ⟨-, call, -, began⟩ := task_next there
    · exact sound.read place raw applications same
    · cases before with
      | reading text =>
        rw [CacheTask.step_reading] at stepped
        cases held : Application.parseList text with
        | ok listed =>
          rw [held] at stepped
          cases stepped
          exact held
        | error fault =>
          rw [held] at stepped
          cases stepped
      | looking =>
        rw [CacheTask.step_looking] at stepped
        cases kept : s.cache.peek <;> rw [kept] at stepped <;> cases stepped
      | filling | installing | listed | reloaded => cases stepped
    · cases call <;> cases began

theorem run (sound : s.IsSound) (events : List CacheEvent) : (s.run events).IsSound := by
  induction events using List.reverseRecOn with
  | nil => exact sound
  | append_singleton events event ih =>
    rw [run_append]
    exact ih.next event

end IsSound

def HeldDuring (s : SharedCache) (events : List CacheEvent) (place : Nat)
    (answer : Except ApplicationsFault (List Application)) : Prop :=
  ∃ earlier later task, events = earlier ++ later ∧ (s.run earlier).tasks[place]? = some task ∧
    task.isAsking ∧ Application.parseList (s.run earlier).cache.raw = answer

theorem HeldDuring.append {events : List CacheEvent}
    {answer : Except ApplicationsFault (List Application)}
    (held : s.HeldDuring events place answer) (more : List CacheEvent) :
    s.HeldDuring (events ++ more) place answer := by
  obtain ⟨earlier, later, task, rfl, there, asking, lists⟩ := held
  exact ⟨earlier, later ++ more, task, List.append_assoc .., there, asking, lists⟩

theorem IsSound.lists (sound : s.IsSound) {task : CacheTask}
    {answer : Except ApplicationsFault (List Application)}
    (stepped : .listed answer = (task.step s.cache).1) :
    task = .listed answer ∨ task.isAsking ∧ Application.parseList s.cache.raw = answer := by
  cases task with
  | looking =>
    rw [CacheTask.step_looking] at stepped
    cases kept : s.cache.peek with
    | some applications =>
      rw [kept] at stepped
      cases stepped
      exact .inr ⟨rfl, sound.faithful applications kept⟩
    | none =>
      rw [kept] at stepped
      cases stepped
  | filling =>
    cases stepped
    exact .inr ⟨rfl, (ApplicationCache.fill_faithful sound.faithful).1.symm⟩
  | reading raw =>
    rw [CacheTask.step_reading] at stepped
    cases held : Application.parseList raw <;> rw [held] at stepped <;> cases stepped
  | installing | reloaded => cases stepped
  | listed =>
    cases stepped
    exact .inl rfl

theorem heldDuring_of_listed (sound : s.IsSound) (alone : s.tasks = []) (events : List CacheEvent)
    {answer : Except ApplicationsFault (List Application)}
    (listed : (s.run events).tasks[place]? = some (.listed answer)) :
    s.HeldDuring events place answer := by
  induction events using List.reverseRecOn with
  | nil =>
    rw [run, List.foldl_nil, alone, List.getElem?_nil] at listed
    cases listed
  | append_singleton events event ih =>
    rw [run_append] at listed
    obtain same | ⟨-, before, found, stepped⟩ | ⟨-, call, -, began⟩ := task_next listed
    · exact (ih same).append [event]
    · obtain rfl | ⟨asking, lists⟩ := (sound.run events).lists stepped
      · exact (ih found).append [event]
      · exact ⟨events, [event], before, rfl, found, asking, lists⟩
    · cases call <;> cases began

/-- No call with another text is under way, now or at any time during the events. -/
def IsQuiet (s : SharedCache) (events : List CacheEvent) : Prop :=
  ∀ earlier later, events = earlier ++ later →
    ∀ task ∈ (s.run earlier).tasks, task.isReloading = false

theorem IsQuiet.front {events later : List CacheEvent} (quiet : s.IsQuiet (events ++ later)) :
    s.IsQuiet events := by
  rintro earlier rest rfl
  exact quiet earlier (rest ++ later) (List.append_assoc ..)

theorem step_kept {c : ApplicationCache} {applications : List Application}
    (kept : c.parsed = some applications) {task : CacheTask} (asks : task.isReloading = false) :
    (task.step c).2 = c ∧
      (task.isAsking → (task.step c).1 = .listed (.ok applications)) := by
  cases task with
  | looking =>
    rw [CacheTask.step_looking, show c.peek = some applications from kept]
    exact ⟨rfl, fun _ => rfl⟩
  | filling =>
    have filled : c.fill = (.ok applications, c) := by simp only [ApplicationCache.fill, kept]
    rw [show CacheTask.filling.step c = (.listed c.fill.1, c.fill.2) from rfl, filled]
    exact ⟨rfl, fun _ => rfl⟩
  | reading | installing => cases asks
  | listed | reloaded =>
    refine ⟨rfl, fun asking => ?_⟩
    cases asking

theorem run_kept {applications : List Application} (kept : s.cache.parsed = some applications)
    (events : List CacheEvent) (quiet : s.IsQuiet events) :
    (s.run events).cache = s.cache ∧
      ∀ (place : Nat) task, s.tasks.length ≤ place → (s.run events).tasks[place]? = some task →
        task = CacheTask.looking ∨ task = .listed (.ok applications) := by
  induction events using List.reverseRecOn with
  | nil =>
    refine ⟨rfl, fun place task began there => ?_⟩
    rw [run, List.foldl_nil, List.getElem?_eq_none began] at there
    cases there
  | append_singleton events event ih =>
    obtain ⟨cache, answers⟩ := ih quiet.front
    -- Nobody reloads meanwhile, so no step writes to what is kept.
    have before : ∀ {place : Nat} {task : CacheTask}, (s.run events).tasks[place]? = some task →
        task.isReloading = false :=
      fun there => quiet events [event] rfl _ (List.mem_of_getElem? there)
    have after := quiet (events ++ [event]) [] (List.append_nil _).symm
    have keptNow : (s.run events).cache.parsed = some applications := cache ▸ kept
    rw [run_append] at after ⊢
    constructor
    · cases event with
      | start call => exact cache
      | advance place =>
        change ((s.run events).next (.advance place)).cache = s.cache
        cases there : (s.run events).tasks[place]? with
        | none =>
          rw [next_absent there]
          exact cache
        | some task =>
          rw [next_advance there]
          exact (step_kept keptNow (before there)).1.trans cache
    · intro place task began there
      obtain same | ⟨-, stood, found, stepped⟩ | ⟨-, call, -, starts⟩ := task_next there
      · exact answers place task began same
      · have listed := step_kept keptNow (before found)
        obtain rfl | rfl := answers place stood began found
        · exact .inr (stepped.trans (listed.2 rfl))
        · exact .inr stepped
      · cases call with
        | applications => exact .inl starts
        | reload raw =>
          subst starts
          cases after _ (List.mem_of_getElem? there)

theorem IsSound.reloads (sound : s.IsSound) {task : CacheTask}
    (there : s.tasks[place]? = some task) (reloading : task.isReloading) {raw : String} {count : Nat}
    (ended : (s.next event).tasks[place]? = some (.reloaded raw (.ok count))) :
    ∃ applications, Application.parseList raw = .ok applications ∧
      count = applications.length ∧ (s.next event).cache = ⟨raw, some applications⟩ := by
  obtain same | ⟨rfl, before, found, stepped⟩ | ⟨-, call, -, began⟩ := task_next ended
  · cases there.symm.trans same
    cases reloading
  · cases there.symm.trans found
    cases task with
    | reading text =>
      rw [CacheTask.step_reading] at stepped
      cases held : Application.parseList text <;> rw [held] at stepped <;> cases stepped
    | installing text applications =>
      cases stepped
      refine ⟨applications, sound.read place raw applications there, rfl, ?_⟩
      rw [next_advance there]
      rfl
    | looking | filling | listed | reloaded => cases reloading
  · cases call <;> cases began

/-- Calls come in any number and in any order of their sections. A call for the list answers with
what a text lists that was in force while the call was under way. Once a call with another text has
ended well and no other such call is under way, every call that begins from then on answers with what
that text lists. -/
theorem run_current (raw : String) (events : List CacheEvent) :
    (∀ (place : Nat) answer,
      ((ofText raw).run events).tasks[place]? = some (CacheTask.listed answer) →
      (ofText raw).HeldDuring events place answer) ∧
    ∀ earlier event later (place : Nat) (task : CacheTask) text count,
      events = earlier ++ event :: later →
      ((ofText raw).run earlier).tasks[place]? = some task → task.isReloading →
      (((ofText raw).run earlier).next event).tasks[place]?
        = some (CacheTask.reloaded text (.ok count)) →
      (((ofText raw).run earlier).next event).IsQuiet later →
        ∃ applications, Application.parseList text = .ok applications ∧
          count = applications.length ∧
          ∀ (place : Nat) task, (((ofText raw).run earlier).next event).tasks.length ≤ place →
            ((ofText raw).run events).tasks[place]? = some task →
            task = CacheTask.looking ∨ task = .listed (.ok applications) := by
  have sound := IsSound.ofText raw
  refine ⟨fun place answer listed => heldDuring_of_listed sound rfl events listed, ?_⟩
  rintro earlier event later place task text count rfl there reloading ended quiet
  obtain ⟨applications, lists, counted, cache⟩ := (sound.run earlier).reloads there reloading ended
  refine ⟨applications, lists, counted, ?_⟩
  have kept : (((ofText raw).run earlier).next event).cache.parsed = some applications := by
    rw [cache]
  rw [show earlier ++ event :: later = (earlier ++ [event]) ++ later by simp, run_append, run_append]
  exact (run_kept kept later quiet).2

/-- A call for the list finds nothing kept, another text is taken over, and only then the first call
fills the list. A third call begins after that. -/
def lateFill : List CacheEvent :=
  [.start .applications, .advance 0, .start (.reload "[]"), .advance 1] ++ .advance 1 ::
    [.advance 0, .start .applications, .advance 2]

theorem run_current_lateFill :
    (ofText "no list").HeldDuring lateFill 0 (.ok []) ∧
      ∃ applications, Application.parseList "[]" = .ok applications ∧
        ((ofText "no list").run lateFill).tasks[2]? = some (.listed (.ok applications)) := by
  obtain ⟨held, settled⟩ := run_current "no list" lateFill
  refine ⟨held 0 (.ok []) rfl, ?_⟩
  obtain ⟨applications, lists, -, answers⟩ :=
    settled _ _ _ 1 (.installing "[]" []) "[]" 0 rfl rfl rfl rfl (fun earlier later split => by
      have front : earlier ∈ [CacheEvent.advance 0, .start .applications, .advance 2].inits :=
        (List.mem_inits _ _).mpr ⟨later, split.symm⟩
      simp only [List.inits, List.map_cons, List.map_nil, List.mem_cons, List.not_mem_nil,
        or_false] at front
      obtain rfl | rfl | rfl | rfl := front <;> decide)
  refine ⟨applications, lists, ?_⟩
  obtain looking | listed := answers 2 (.listed (.ok [])) (by decide) rfl
  · cases looking
  · rw [← listed]
    rfl

end SharedCache

end Analytics
