import OpenHybrid.Proof.Exit

/-!
# What is taken down

An orderly end cancels the threads and closes the data socket that bonding has set up, each once and
under the handle it was set up with. An end because the socket was refused takes nothing down.
-/

namespace OpenHybrid

open ByteMemory Frame Transition

variable {answers : Answers} {past : List Effect} {process other : Process}

structure Held (past : List Effect) (process : Process) : Prop where
  thread : ∀ thread handle, .threadStarted thread handle ∈ past ++ process.effects →
    process.handle thread = handle ∧ handle ≠ 0
  socket : ∀ fd filter, .greSocketOpened fd filter ∈ past ++ process.effects →
    process.sockfdGre = fd ∧ fd ≠ 0

def cancellations (process : Process) : List Effect :=
  (if process.runtime.gre2tunThread ≠ 0 then [.threadCancelled process.runtime.gre2tunThread]
    else []) ++
  (if process.runtime.tun2greThread ≠ 0 then [.threadCancelled process.runtime.tun2greThread]
    else []) ++
  (if process.sockfdGre ≠ 0 then [.greSocketClosed process.sockfdGre] else [])

def planeStops (effects : List Effect) : List Effect := effects.filter Effect.stopsPlane

theorem planeStops_append (before after : List Effect) :
    planeStops (before ++ after) = planeStops before ++ planeStops after := List.filter_append ..

theorem planeStops_eq_nil {effects : List Effect} :
    planeStops effects = [] ↔ ∀ effect ∈ effects, effect.stopsPlane = false := by
  simp only [planeStops, List.filter_eq_nil_iff, Bool.not_eq_true]

/-- An effect that may be left out. -/
theorem emit_if (condition : Prop) [Decidable condition] (effect : Effect) (process : Process) :
    (if condition then process.emit effect else process).runtime = process.runtime ∧
      (if condition then process.emit effect else process).sockfdGre = process.sockfdGre ∧
      (if condition then process.emit effect else process).effects =
        process.effects ++ if condition then [effect] else [] := by
  split
  · exact ⟨rfl, rfl, rfl⟩
  · exact ⟨rfl, rfl, (List.append_nil _).symm⟩

theorem cancellations_congr (hthreads : Aspect.threads.get other = Aspect.threads.get process)
    (hsocket : other.sockfdGre = process.sockfdGre) :
    cancellations other = cancellations process := by
  obtain ⟨hgre2tun, htun2gre⟩ := Prod.mk.inj hthreads
  unfold cancellations
  rw [hgre2tun, htun2gre, hsocket]

theorem threadCancelled_mem (thread : Thread) (hsome : process.handle thread ≠ 0) :
    .threadCancelled (process.handle thread) ∈ cancellations process := by
  unfold cancellations
  simp only [List.mem_append, List.mem_ite_nil_right, List.mem_singleton]
  cases thread with
  | gre2tun => exact Or.inl (Or.inl ⟨hsome, rfl⟩)
  | tun2gre => exact Or.inl (Or.inr ⟨hsome, rfl⟩)

theorem greSocketClosed_mem (hsome : process.sockfdGre ≠ 0) :
    .greSocketClosed process.sockfdGre ∈ cancellations process := by
  unfold cancellations
  simp only [List.mem_append, List.mem_ite_nil_right, List.mem_singleton]
  exact Or.inr ⟨hsome, trivial⟩

/-- Whatever is held is taken down, and nothing else. -/
theorem cancelThreads_effects (process : Process) :
    (cancelThreads process).effects = process.effects ++ cancellations process := by
  unfold cancelThreads cancellations closeGreSocket
  dsimp only
  simp only [emit_if, List.append_assoc]

/-! ### Holding on -/

def Effect.OnPlane (effect : Effect) : Prop := effect.kind = .thread ∨ effect.kind = .greSocket

/-- Nothing is started or opened. -/
theorem Held.of_same (hheld : Held past process) (hthreads : other.handle = process.handle)
    (hsocket : other.sockfdGre = process.sockfdGre)
    (hold : ∀ effect ∈ other.effects, effect.OnPlane → effect.setsUp ≠ none →
      effect ∈ process.effects) : Held past other := by
  have hpast : ∀ effect ∈ past ++ other.effects, effect.OnPlane → effect.setsUp ≠ none →
      effect ∈ past ++ process.effects := by
    intro effect hmem hplane hsets
    rcases List.mem_append.mp hmem with hmem | hmem
    · exact List.mem_append_left _ hmem
    · exact List.mem_append_right _ (hold effect hmem hplane hsets)
  refine ⟨fun thread handle hmem => ?_, fun fd filter hmem => ?_⟩
  · rw [hthreads]
    exact hheld.thread thread handle (hpast _ hmem (Or.inl rfl) (by simp [Effect.setsUp]))
  · rw [hsocket]
    exact hheld.socket fd filter (hpast _ hmem (Or.inr rfl) (by simp [Effect.setsUp]))

theorem handle_congr (hthreads : Aspect.threads.get other = Aspect.threads.get process) :
    other.handle = process.handle := by
  obtain ⟨hgre2tun, htun2gre⟩ := Prod.mk.inj hthreads
  funext thread
  cases thread with
  | gre2tun => exact hgre2tun
  | tun2gre => exact htun2gre

theorem Held.of_agree (hheld : Held past process)
    (hagree : Agree Aspect.get [.threads, .sockfdGre, .effects .greSocket, .effects .thread] process
      other) : Held past other := by
  refine hheld.of_same (handle_congr (hagree .threads (by simp))) (hagree .sockfdGre (by simp))
    fun effect hmem hplane _ => ?_
  have hold : ∀ kind, effect.kind = kind → ofKind kind other.effects = ofKind kind process.effects →
      effect ∈ process.effects := by
    intro kind hkind hsame
    have hin : effect ∈ ofKind kind other.effects :=
      List.mem_filter.mpr ⟨hmem, decide_eq_true hkind⟩
    rw [hsame] at hin
    exact (List.mem_filter.mp hin).1
  rcases hplane with hkind | hkind
  · exact hold _ hkind (hagree (.effects .thread) (by simp))
  · exact hold _ hkind (hagree (.effects .greSocket) (by simp))

/-! ### Starting and opening -/

theorem held_openGreSocket (hheld : Held past process) (hclosed : process.sockfdGre = 0)
    (hproper : answers.Proper) : Held past (openGreSocket answers process) := by
  have hthreads := handle_congr (within_openGreSocket answers process .threads (by decide))
  -- there was no socket before
  have hnone : ∀ fd filter, .greSocketOpened fd filter ∉ past ++ process.effects := by
    intro fd filter hmem
    obtain ⟨hsame, hopen⟩ := hheld.socket fd filter hmem
    exact hopen (hsame.symm.trans hclosed)
  have hcases : ∀ effect ∈ (openGreSocket answers process).effects, effect ∈ process.effects ∨
      effect = .exit false ∨ ∃ filter, effect = .greSocketOpened answers.greSocket.fd filter := by
    intro effect hmem
    unfold openGreSocket at hmem
    dsimp only at hmem
    split_ifs at hmem <;>
      (simp only [Process.exit, Process.emit, List.mem_append, List.mem_singleton] at hmem
       rcases hmem with hmem | rfl)
    all_goals first | exact Or.inl hmem | exact Or.inr (Or.inl rfl) | exact Or.inr (Or.inr ⟨_, rfl⟩)
  have hfd : (openGreSocket answers process).sockfdGre = answers.greSocket.fd := by
    unfold openGreSocket
    dsimp only
    split_ifs <;> rfl
  refine ⟨fun thread handle hmem => ?_, fun fd filter hmem => ?_⟩
  · rw [hthreads]
    refine hheld.thread thread handle ?_
    rcases List.mem_append.mp hmem with hmem | hmem
    · exact List.mem_append_left _ hmem
    · rcases hcases _ hmem with hmem | hmem | ⟨_, hmem⟩
      · exact List.mem_append_right _ hmem
      · exact absurd hmem (by simp)
      · exact absurd hmem (by simp)
  · rw [hfd]
    rcases List.mem_append.mp hmem with hmem | hmem
    · exact absurd (List.mem_append_left _ hmem) (hnone fd filter)
    · rcases hcases _ hmem with hmem | hmem | ⟨_, hmem⟩
      · exact absurd (List.mem_append_right _ hmem) (hnone fd filter)
      · exact absurd hmem (by simp)
      · obtain ⟨rfl, -⟩ := Effect.greSocketOpened.inj hmem
        exact ⟨rfl, hproper.socket⟩

/-- A thread that is started is held. -/
theorem held_startThread (thread : Thread) (hheld : Held past process)
    (hproper : answers.Proper) : Held past (thread.start answers process) := by
  rw [Thread.start_eq]
  by_cases hnone : process.handle thread = 0
  · rw [if_pos hnone]
    dsimp only
    have hself : (process.setHandle thread (answers.create thread).handle).handle thread =
        (answers.create thread).handle := process.handle_setHandle thread _
    have hother : ∀ other ≠ thread,
        (process.setHandle thread (answers.create thread).handle).handle other =
          process.handle other :=
      fun other hne => process.handle_setHandle_of_ne hne _
    have heffects := process.effects_setHandle thread (answers.create thread).handle
    have hsocket : (process.setHandle thread (answers.create thread).handle).sockfdGre =
        process.sockfdGre := by
      cases thread <;> rfl
    generalize process.setHandle thread (answers.create thread).handle = next
      at hself hother heffects hsocket
    have hkept : Held past next := by
      refine ⟨fun started handle hmem => ?_, fun fd filter hmem => ?_⟩
      · rw [heffects] at hmem
        obtain ⟨hsame, hsome⟩ := hheld.thread started handle hmem
        -- the thread that is started now was not started before
        have hne : started ≠ thread := by
          rintro rfl
          exact hsome (hsame.symm.trans hnone)
        exact ⟨(hother started hne).trans hsame, hsome⟩
      · rw [heffects] at hmem
        rw [hsocket]
        exact hheld.socket fd filter hmem
    split
    · rename_i hstarted
      have hcases : ∀ effect ∈
          past ++ (next.emit (.threadStarted thread (answers.create thread).handle)).effects,
          effect ∈ past ++ next.effects ∨
            effect = .threadStarted thread (answers.create thread).handle := by
        intro effect hmem
        simpa [Process.emit, ← List.append_assoc, or_assoc] using hmem
      refine ⟨fun started handle hmem => ?_, fun fd filter hmem => ?_⟩
      · rcases hcases _ hmem with hmem | hmem
        · exact hkept.thread started handle hmem
        · obtain ⟨rfl, rfl⟩ := Effect.threadStarted.inj hmem
          exact ⟨hself, hproper.create started hstarted⟩
      · rcases hcases _ hmem with hmem | hmem
        · exact hkept.socket fd filter hmem
        · exact absurd hmem (by simp)
    · exact hkept
  · rw [if_neg hnone]
    exact hheld

theorem held_startThreads (hheld : Held past process) (hproper : answers.Proper) :
    Held past (startThreads answers process) := by
  have hboth : ∀ process : Process, Held past process →
      Held past (startTun2gre answers (startGre2tun answers process)) := fun process hheld =>
    held_startThread .tun2gre (held_startThread .gre2tun hheld hproper) hproper
  unfold startThreads
  dsimp only
  split
  · by_cases hclosed : process.sockfdGre = 0
    · rw [if_pos hclosed]
      have hopened := held_openGreSocket hheld hclosed hproper
      split
      · exact hopened
      · exact hboth _ hopened
    · rw [if_neg hclosed]
      split
      · exact hheld
      · exact hboth _ hheld
  · exact hheld

/-! ### The shutdown -/

def planeEffects (effects : List Effect) : List Effect :=
  effects.filter fun effect => effect.kind = .thread ∨ effect.kind = .greSocket

theorem mem_planeEffects {effect : Effect} {effects : List Effect} (hplane : effect.OnPlane) :
    effect ∈ planeEffects effects ↔ effect ∈ effects := by
  rw [planeEffects, List.mem_filter]
  exact and_iff_left (decide_eq_true hplane)

theorem planeEffects_of_silent {footprint : List Aspect} (hgrows : Grows process other)
    (hwithin : Within footprint process other) (hthread : .effects .thread ∉ footprint)
    (hsocket : .effects .greSocket ∉ footprint) :
    planeEffects other.effects = planeEffects process.effects := by
  refine filter_of_silent hgrows hwithin fun effect hkind => ?_
  rcases of_decide_eq_true hkind with hkind | hkind <;> rwa [hkind]

theorem stopsPlane_cancellations {effect : Effect} (hmem : effect ∈ cancellations process) :
    effect.stopsPlane = true ∧ effect.setsUp = none ∧ effect.OnPlane := by
  unfold cancellations at hmem
  simp only [List.mem_append, List.mem_ite_nil_right, List.mem_singleton] at hmem
  obtain (⟨-, rfl⟩ | ⟨-, rfl⟩) | ⟨-, rfl⟩ := hmem
  · exact ⟨rfl, rfl, Or.inl rfl⟩
  · exact ⟨rfl, rfl, Or.inl rfl⟩
  · exact ⟨rfl, rfl, Or.inr rfl⟩

/-- With bonding a shutdown cancels and closes what is there, and does nothing else to it. -/
theorem planeEffects_shutdown (answers : Answers) (hbonding : process.runtime.bonding = true) :
    planeEffects (shutdown answers process).effects =
      planeEffects process.effects ++ cancellations process := by
  set ended := endLeases (killClients answers process) with hended
  have hwithin : Within [.effects .client, .effects .dhcpEvent, .effects .dhcp6Event] process
      ended :=
    ((within_killClients answers process).mono (by simp)).trans
      ((within_endLeases _).mono (by simp))
  have hgrows : Grows process ended := (Grows.killClients process).trans (Grows.endLeases _)
  have hstill : ended.runtime.bonding = true :=
    (congrArg Settings.bonding (hwithin .settings (by decide))).trans hbonding
  have hkept : cancellations ended = cancellations process :=
    cancellations_congr (hwithin .threads (by decide)) (hwithin .sockfdGre (by decide))
  have hremoved : planeEffects (removeDevice answers ended).effects =
      planeEffects (cancelThreads ended).effects := by
    unfold removeDevice
    rw [hstill, if_pos rfl]
    exact planeEffects_of_silent (Grows.ite (Grows.destroyTunnelDev _))
      (within_if _ (within_destroyTunnelDev answers _)) (by decide) (by decide)
  have hcancelled : planeEffects (cancelThreads ended).effects =
      planeEffects ended.effects ++ cancellations ended := by
    rw [cancelThreads_effects, planeEffects, List.filter_append]
    exact congrArg _ (List.filter_eq_self.mpr fun _ hmem =>
      decide_eq_true (stopsPlane_cancellations hmem).2.2)
  calc
    planeEffects (shutdown answers process).effects =
        planeEffects (removeDevice answers ended).effects := by
      rw [shutdown_eq]
      exact planeEffects_of_silent (Grows.sayGoodbye _) (within_sayGoodbye answers _) (by decide)
        (by decide)
    _ = planeEffects ended.effects ++ cancellations ended := hremoved.trans hcancelled
    _ = planeEffects process.effects ++ cancellations process := by
      rw [hkept, planeEffects_of_silent hgrows hwithin (by decide) (by decide)]

theorem onPlane_of_stopsPlane {effect : Effect} (htakes : effect.stopsPlane = true) :
    effect.OnPlane := by
  unfold Effect.stopsPlane at htakes
  split at htakes
  · exact Or.inl rfl
  · exact Or.inr rfl
  · exact absurd htakes Bool.false_ne_true

theorem planeStops_planeEffects (effects : List Effect) :
    planeStops (planeEffects effects) = planeStops effects := by
  unfold planeStops planeEffects
  rw [List.filter_filter]
  refine List.filter_congr fun effect _ => ?_
  cases htakes : effect.stopsPlane with
  | false => rfl
  | true => exact decide_eq_true (onPlane_of_stopsPlane htakes)

/-- With bonding, a shutdown takes down what is held. -/
theorem planeStops_shutdown (answers : Answers) (hbonding : process.runtime.bonding = true) :
    planeStops (shutdown answers process).effects =
      planeStops process.effects ++ cancellations process := by
  rw [← planeStops_planeEffects, planeEffects_shutdown answers hbonding, planeStops_append,
    planeStops_planeEffects]
  exact congrArg _ (List.filter_eq_self.mpr fun _ hmem => (stopsPlane_cancellations hmem).1)

theorem held_shutdown (answers : Answers) (hheld : Held past process)
    (hbonding : process.runtime.bonding = true) : Held past (shutdown answers process) := by
  have hwithin := within_shutdown answers process
  refine hheld.of_same (handle_congr (hwithin .threads (by decide)))
    (hwithin .sockfdGre (by decide)) fun effect hmem hplane hsets => ?_
  rw [← mem_planeEffects hplane, planeEffects_shutdown answers hbonding, List.mem_append] at hmem
  rcases hmem with hmem | hmem
  · exact (mem_planeEffects hplane).mp hmem
  · exact absurd (stopsPlane_cancellations hmem).2.1 hsets

/-! ### One execution -/

structure Sound (past : List Effect) (process : Process) : Prop where
  lasting : Lasting past process
  held : Held past process

theorem sound_after (hproper : answers.Proper) (timer : Timer)
    (hbefore : Sound past (Timer.before answers timer process)) :
    Sound past (Timer.after answers timer process) := by
  refine ⟨lasting_after hproper timer hbefore.lasting, ?_⟩
  refine leaving_invariant _ hbefore.held fun _ => ?_
  have hother : (∀ aspect ∈ [Aspect.threads, .sockfdGre, .effects .greSocket, .effects .thread],
      aspect ∉ timer.footprint) → Held past
        (timer.run answers (Timer.before answers timer process)) := fun hdisjoint =>
    hbefore.held.of_agree ((timer.within_run answers _).agree hdisjoint)
  cases timer with
  | startThreads => exact held_startThreads hbefore.held hproper
  | stopThreads =>
      show Held past (stopThreads _)
      rw [stopThreads_of_lasting hbefore.lasting]
      exact hbefore.held
  | handleSignals =>
      have hsignal : ∀ signal, Held past
          { Timer.before answers .handleSignals process with runtime.signal := signal } :=
        fun signal => hbefore.held.of_agree ((within_signal _ signal).agree (by decide))
      show Held past (handleSignals answers _)
      rcases handleSignals_eq answers (Timer.before answers .handleSignals process) with
        ⟨signal, hafter⟩ | ⟨signal, hafter⟩
      · rw [hafter]
        exact hsignal signal
      · rw [hafter]
        exact held_shutdown answers (hsignal signal) hbefore.lasting.bonding
  | _ => exact hother (by decide)

theorem sound_before (hsound : Sound past process) (hproper : answers.Proper) (timer : Timer) :
    Sound past (Timer.before answers timer process) :=
  reaching_invariant (Sound past) (by decide : Timer.all.Nodup) hsound
    fun timer _ hbefore => sound_after hproper timer hbefore

/-- **One execution.** -/
theorem sound_executeTimers (hsound : Sound past process) (hproper : answers.Proper) :
    Sound past (executeTimers answers process) := by
  rw [← after_handleSignals]
  exact sound_after hproper .handleSignals (sound_before hsound hproper .handleSignals)

theorem planeStops_emit (process : Process) {effect : Effect} (hkeeps : effect.stopsPlane = false) :
    planeStops (process.emit effect).effects = planeStops process.effects := by
  refine (planeStops_append _ _).trans ?_
  rw [planeStops_eq_nil.mpr (List.forall_mem_singleton.mpr hkeeps), List.append_nil]

theorem planeStops_startThreads (answers : Answers) (process : Process) :
    planeStops (startThreads answers process).effects = planeStops process.effects := by
  have hstart : ∀ (thread : Thread) (process : Process),
      planeStops (thread.start answers process).effects = planeStops process.effects := by
    intro thread process
    rw [thread.effects_start, planeStops_append]
    split <;> exact List.append_nil _
  have hboth : ∀ process : Process,
      planeStops (startTun2gre answers (startGre2tun answers process)).effects =
        planeStops process.effects := fun process =>
    (hstart .tun2gre _).trans (hstart .gre2tun process)
  have hopen : planeStops (openGreSocket answers process).effects = planeStops process.effects := by
    have hexit : ∀ process : Process,
        planeStops (process.exit false).effects = planeStops process.effects :=
      by
      intro process
      refine (planeStops_append _ _).trans ?_
      rw [planeStops_eq_nil.mpr (List.forall_mem_singleton.mpr rfl), List.append_nil]
    unfold openGreSocket
    dsimp only
    split
    · exact hexit _
    · split
      · exact hexit _
      · exact planeStops_emit _ rfl
  unfold startThreads
  dsimp only
  split
  · by_cases hclosed : process.sockfdGre = 0
    · rw [if_pos hclosed]
      split
      · exact hopen
      · rw [hboth, hopen]
    · rw [if_neg hclosed]
      split
      · rfl
      · exact hboth process
  · rfl

/-- In front of the last timer no thread is cancelled and the data socket is not closed. -/
theorem planeStops_before_signals (hsound : Sound past process) (hproper : answers.Proper) :
    planeStops (Timer.before answers .handleSignals process).effects = planeStops process.effects := by
  let untouched (middle : Process) : Prop := planeStops middle.effects = planeStops process.effects
  refine reaching_invariant untouched (by decide : Timer.all.Nodup) rfl fun timer hfront hbefore => ?_
  refine leaving_invariant untouched hbefore fun _ => ?_
  suffices hsame : planeStops (timer.run answers (Timer.before answers timer process)).effects =
      planeStops (Timer.before answers timer process).effects from hsame.trans hbefore
  have hsilent : .effects .thread ∉ timer.footprint → .effects .greSocket ∉ timer.footprint →
      planeStops (timer.run answers (Timer.before answers timer process)).effects =
        planeStops (Timer.before answers timer process).effects := by
    intro hthread hsocket
    refine filter_of_silent (Grows.run timer _) (timer.within_run answers _) fun effect htakes => ?_
    rcases onPlane_of_stopsPlane htakes with hkind | hkind <;> rwa [hkind]
  cases timer with
  | startThreads => exact planeStops_startThreads answers _
  | stopThreads =>
      show planeStops (stopThreads _).effects = _
      rw [stopThreads_of_lasting (sound_before hsound hproper .stopThreads).lasting]
  | handleSignals => exact absurd rfl (ne_handleSignals_of_front hfront)
  | _ => exact hsilent (by decide) (by decide)

/-! ### A run -/

namespace Main

variable {config : Config} {buffer : Memory} {state next : State} {input : Input} {output : Output}
  {history : History Input Output}

theorem Held.quiet {past : List Effect} {process : Process} (hheld : Held past process) :
    Held (past ++ process.effects) process.quiet := by
  have hsame : past ++ process.effects ++ process.quiet.effects = past ++ process.effects :=
    List.append_nil _
  exact ⟨fun thread handle hmem => hheld.thread thread handle (hsame ▸ hmem),
    fun fd filter hmem => hheld.socket fd filter (hsame ▸ hmem)⟩

theorem sound_receive {past : List Effect} (hsound : Sound past state.process.quiet)
    (hcontained : ReceiveContained state input) :
    Sound past (receive state input).process.quiet := by
  have hagree : Agree Aspect.get [.threads, .sockfdGre] state.process
      (receive state input).process := by
    refine agree_receive hcontained fun msgtype tuntype _ htuntype => ?_
    rcases htuntype with rfl | rfl <;> cases msgtype <;> decide
  refine ⟨lasting_receive hsound.lasting hcontained, hsound.held.of_agree fun aspect hmem => ?_⟩
  cases aspect with
  | threads => exact hagree .threads (by decide)
  | sockfdGre => exact hagree .sockfdGre (by decide)
  | effects kind => rfl
  | _ => exact absurd hmem (by decide)

theorem sound_of_step (hsound : Sound (effectsOf history) state.process.quiet)
    (hcontained : ReceiveContained state input) (hproper : input.answers.Proper)
    (hstep : Step state input output next) :
    Sound (effectsOf history) next.process := by
  rw [next_of_step hstep]
  exact sound_executeTimers (sound_receive hsound hcontained) hproper

/-- With bonding, the invariants hold in every run. -/
theorem sound_of_run (hbonding : config.bonding = true)
    (hrun : RunWhere Step
      (fun _ state input => ReceiveContained state input ∧ input.answers.Proper)
      (State.initial config buffer) history state) :
    Sound (effectsOf history) state.process.quiet := by
  refine hrun.invariant (fun history state => Sound (effectsOf history) state.process.quiet) ?_ ?_
  · exact ⟨lasting_of_run hbonding .nil, fun _ _ hmem => absurd hmem List.not_mem_nil,
      fun _ _ hmem => absurd hmem List.not_mem_nil⟩
  · intro history state input output next hsound hguard hstep
    have hnext := sound_of_step hsound hguard.1 hguard.2 hstep
    rw [effectsOf_step history hstep]
    exact ⟨hnext.lasting.quiet, Held.quiet hnext.held⟩

/-- Which threads have been cancelled and whether the data socket has been closed, and whether that is
everything. -/
structure TakenDown (effects : List Effect) (process : Process) : Prop where
  orderly : .exit true ∈ effects →
    planeStops effects = cancellations process ∧
      (∀ thread handle, .threadStarted thread handle ∈ effects →
        .threadCancelled handle ∈ planeStops effects) ∧
      ∀ fd filter, .greSocketOpened fd filter ∈ effects → .greSocketClosed fd ∈ planeStops effects
  otherwise : .exit true ∉ effects → planeStops effects = []

theorem exit_not_mem {effects : List Effect} {success : Bool}
    (hnone : ofKind .lifecycle effects = []) : .exit success ∉ effects := fun hmem =>
  absurd (List.filter_eq_nil_iff.mp hnone _ hmem) (by simp [Effect.kind])

/-- **The end of the data plane.** In every run with bonding, however often the tunnels are lost:
no thread is cancelled and the data socket is not closed unless the process ends in an orderly way, and
then every thread that was started is cancelled and the data socket that was opened is closed, under
their handles, once. -/
theorem takenDown_at_end (hbonding : config.bonding = true)
    (hrun : RunWhere Step
      (fun _ state input => ReceiveContained state input ∧ input.answers.Proper)
      (State.initial config buffer) history state) :
    TakenDown (effectsOf history) state.process := by
  cases hrun with
  | nil => exact ⟨fun hmem => absurd hmem List.not_mem_nil, fun _ => rfl⟩
  | @snoc earlier before _ input output hbefore hguard hstep =>
      have hsound := sound_of_run hbonding hbefore
      have hreceived := sound_receive hsound hguard.1
      have hheld := (sound_of_step hsound hguard.1 hguard.2 hstep).held
      have hnothing : planeStops (effectsOf earlier) = [] :=
        planeStops_eq_nil.mpr fun effect hmem =>
          hsound.lasting.kept hstep.1 effect (List.mem_append_left _ hmem)
      have hquiet : ofKind .lifecycle (effectsOf earlier) = [] :=
        lifecycle_of_running hbefore.run hstep.1
      have hfront : planeStops (Timer.before input.answers .handleSignals
          (receive before input).process.quiet).effects = [] :=
        planeStops_before_signals hreceived hguard.2
      have hnext := next_of_step hstep
      rw [effectsOf_step earlier hstep]
      cases outcome_executeTimers input.answers _ (running_of_step hstep) with
      | goesOn _ _ hreached heffects =>
          rw [← hnext] at hreached heffects
          refine ⟨fun hmem => absurd hmem (exit_not_mem (lifecycle_append hquiet heffects)),
            fun _ => ?_⟩
          rw [planeStops_append, hnothing, hreached, hfront, List.append_nil]
      | fails _ hreached front heffects hlifecycle =>
          rw [← hnext] at hreached heffects
          have hother : .exit true ∉ effectsOf earlier ++ state.process.effects := by
            rw [heffects, ← List.append_assoc]
            intro hmem
            rcases List.mem_append.mp hmem with hmem | hmem
            · exact exit_not_mem (lifecycle_append hquiet hlifecycle) hmem
            · exact absurd (List.mem_singleton.mp hmem) (by simp)
          refine ⟨fun hmem => absurd hmem hother, fun _ => ?_⟩
          rw [planeStops_append, hnothing, hreached, hfront, List.append_nil]
      | obeys signal hshutdown front heffects =>
          rw [← hnext] at hshutdown heffects
          have hlast := sound_before hreceived hguard.2 .handleSignals
          set signalled : Process :=
            { Timer.before input.answers .handleSignals (receive before input).process.quiet with
              runtime.signal := signal }
          have hstill : signalled.runtime.bonding = true := hlast.lasting.bonding
          have hclear : planeStops signalled.effects = [] := hfront
          have hwithin := within_shutdown input.answers signalled
          rw [← hshutdown] at hwithin
          have htaken : planeStops state.process.effects = cancellations state.process := by
            rw [cancellations_congr (hwithin .threads (by decide)) (hwithin .sockfdGre (by decide)),
              hshutdown, planeStops_shutdown input.answers hstill, hclear, List.nil_append]
          have hexit : .exit true ∈ effectsOf earlier ++ state.process.effects := by
            rw [heffects]
            refine List.mem_append_right _ (List.mem_append_right _ ?_)
            unfold farewell
            split <;> simp
          have hall : planeStops (effectsOf earlier ++ state.process.effects) =
              cancellations state.process := by
            rw [planeStops_append, hnothing, htaken, List.nil_append]
          refine ⟨fun _ => ⟨hall, fun thread handle hmem => ?_, fun fd filter hmem => ?_⟩,
            fun hnone => absurd hexit hnone⟩
          · obtain ⟨rfl, hsome⟩ := hheld.thread thread handle hmem
            rw [hall]
            exact threadCancelled_mem thread hsome
          · obtain ⟨rfl, hsome⟩ := hheld.socket fd filter hmem
            rw [hall]
            exact greSocketClosed_mem hsome

/-- The LTE tunnel is accepted, and the client is stopped. -/
theorem stopped_takenDown :
    ∃ history state, history.length = 2 ∧
      planeStops (effectsOf history) =
        [.threadCancelled 5, .threadCancelled 6, .greSocketClosed 4] ∧
      TakenDown (effectsOf history) state := by
  let accept := datagram (bareAccept 0x20) ⟨20, 0⟩
  let stop := interruption sigterm ⟨21, 0⟩
  let up := iteration (plainStart true) accept
  have hstop : ReceiveContained up stop := fun tuntype hhandled =>
    absurd hhandled (by simp [handled, stop, interruption])
  have hrun : RunWhere Step
      (fun _ state input => ReceiveContained state input ∧ input.answers.Proper) (plainStart true)
      [(accept, outputOf (plainStart true) accept), (stop, outputOf up stop)] (iteration up stop) :=
    .snoc (.snoc .nil ⟨bareAccept_contained _ _ _, answers_plain_proper _⟩ (step_outputOf rfl accept))
      ⟨hstop, ⟨(answers_plain_proper ⟨21, 0⟩).socket, (answers_plain_proper ⟨21, 0⟩).gre2tun,
        (answers_plain_proper ⟨21, 0⟩).tun2gre⟩⟩ (step_outputOf (by decide +kernel) stop)
  exact ⟨_, _, rfl, by decide +kernel, takenDown_at_end rfl hrun⟩

end Main

end OpenHybrid
