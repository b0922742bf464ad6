import OzPos.Kernel.ModuleOrder

namespace OzPos

open Trace

variable (id : String) (log : List Hook)

def Hook.lately : List Hook := since (.unsubscribe id) log

def Hook.LoadCalled : Prop := ∃ ok, .load id ok ∈ lately id log

def Hook.Running : Prop := .start id true ∈ lately id log

/-- `on_load` comes upon a module whose handlers were removed since the last one, `on_start`
upon one that is not running. -/
def Hook.Allowed (past : List Hook) : Hook → Prop
  | .load id _ => ¬ LoadCalled id past
  | .start id _ => ¬ Running id past
  | _ => True

/-- The hooks were called as the contract of a module has it, and each module recorded as
started was loaded and then started since its handlers were last removed. -/
structure Kernel.Orderly (k : Kernel) : Prop where
  calls : Guarded Hook.Allowed k.log
  started : ∀ id, k.statuses id = .started →
    Then (.load id true) (.start id true) (Hook.lately id k.log)

structure Kernel.Sound (k : Kernel) : Prop extends k.Orderly where
  loaded : ∀ id, k.statuses id = .loaded → .load id true ∈ Hook.lately id k.log
  idle : ∀ id, k.statuses id ≠ .started → ¬ Hook.Running id k.log
  known : ∀ id, k.statuses id ≠ .registered → (k.modules.find? id).isSome

namespace Kernel

variable (k : Kernel)

/-- An earlier call ran the module's `on_load` and did not get as far as recording it. -/
def HalfLoaded (id : String) : Prop :=
  k.statuses id ≠ .loaded ∧ k.statuses id ≠ .started ∧ Hook.LoadCalled id k.log

/-- Up to the first `on_load` that fails, the modules that are not skipped are neither started
nor half loaded. -/
def LoadsFresh (r : HookResults) : Kernel → List String → Prop
  | _, [] => True
  | k, id :: order =>
    if k.statuses id = .loaded then LoadsFresh r k order
    else if (k.modules.find? id).isNone then True
    else k.statuses id ≠ .started ∧ ¬ k.HalfLoaded id ∧
      (r.onLoad id = none →
        LoadsFresh r ((k.record (.load id true)).setStatus id .loaded) order)

/-- Up to the first failure, a stopped module whose `on_start` succeeds had a successful
`on_load` after its stop. -/
def StartsLoaded (r : HookResults) : Kernel → List String → Prop
  | _, [] => True
  | k, id :: order =>
    if (k.modules.find? id).isNone then True
    else if !startable (k.statuses id) then True
    else r.onStart id = none →
      (k.statuses id = .stopped → .load id true ∈ Hook.lately id k.log) ∧
        StartsLoaded r ((k.record (.start id true)).setStatus id .started) order

def LoadFresh (r : HookResults) (orders : HashOrders) : Prop :=
  ∀ order, k.resolveDependencies orders = .ok order → k.LoadsFresh r order

def StartLoaded (r : HookResults) (orders : HashOrders) : Prop :=
  ∀ order, k.resolveDependencies orders = .ok order → k.StartsLoaded r order

def Timely : KernelCall → Prop
  | .loadAll r orders => k.LoadFresh r orders
  | .startAll r loading starting =>
    if k.loaded then k.StartLoaded r starting
    else k.LoadFresh r loading ∧
      ((k.loadAll r loading).2 = .ok () → (k.loadAll r loading).1.StartLoaded r starting)
  | .startModule _ id => k.statuses id = .stopped → ¬ k.HalfLoaded id
  | _ => True

end Kernel

namespace Hook

variable {id : String} {hook : Hook}

theorem lately_other (h : hook ≠ .unsubscribe id) (log : List Hook) :
    lately id (hook :: log) = hook :: lately id log := since_cons_of_ne h log

theorem lately_unsubscribe (id : String) (log : List Hook) :
    lately id (.unsubscribe id :: log) = [] := since_cons_self _ log

theorem loadCalled_of_then {log : List Hook}
    (h : Then (.load id true) (.start id true) (lately id log)) : LoadCalled id log :=
  ⟨true, h.left_mem⟩

def Passive : Hook → Prop
  | .load _ _ => False
  | .start _ _ => False
  | _ => True

theorem passive_stop (id : String) (ok : Bool) : (Hook.stop id ok).Passive := trivial

theorem passive_unsubscribe (id : String) : (Hook.unsubscribe id).Passive := trivial

theorem passive_serviceStop (id : String) (ok : Bool) : (Hook.serviceStop id ok).Passive := trivial

theorem Passive.allowed (h : hook.Passive) (past : List Hook) : Allowed past hook := by
  cases hook with
  | load id ok => cases h
  | start id ok => cases h
  | stop id ok => trivial
  | unsubscribe id => trivial
  | serviceStart id ok => trivial
  | serviceStop id ok => trivial

theorem running_of_passive (h : hook.Passive) {log : List Hook}
    (hrun : Running id (hook :: log)) : Running id log := by
  unfold Running at hrun ⊢
  by_cases hu : hook = .unsubscribe id
  · rw [hu, lately_unsubscribe] at hrun
    cases hrun
  · rw [lately_other hu] at hrun
    rcases List.mem_cons.mp hrun with heq | hmem
    · rw [← heq] at h
      cases h
    · exact hmem

end Hook

namespace Kernel

variable {k : Kernel} {hook : Hook}

/-- What `Sound` says of one module. -/
structure SoundAt (id : String) (status : ModuleStatus) (lately : List Hook) : Prop where
  started : status = .started → Then (.load id true) (.start id true) lately
  loaded : status = .loaded → .load id true ∈ lately
  idle : status ≠ .started → .start id true ∉ lately

variable {id : String}

theorem SoundAt.cons {status : ModuleStatus} {lately : List Hook} (h : SoundAt id status lately)
    (hstart : hook ≠ .start id true) : SoundAt id status (hook :: lately) where
  started := fun hid => (h.started hid).cons hook
  loaded := fun hid => List.mem_cons_of_mem _ (h.loaded hid)
  idle := by
    intro hid hrun
    rcases List.mem_cons.mp hrun with heq | hmem
    · exact hstart heq.symm
    · exact h.idle hid hmem

theorem Sound.of_at (hcalls : Guarded Hook.Allowed k.log)
    (hat : ∀ id, SoundAt id (k.statuses id) (Hook.lately id k.log))
    (hknown : ∀ id, k.statuses id ≠ .registered → (k.modules.find? id).isSome) : k.Sound :=
  ⟨⟨hcalls, fun id => (hat id).started⟩, fun id => (hat id).loaded, fun id => (hat id).idle, hknown⟩

theorem Sound.atLog (h : k.Sound) (hkept : hook ≠ .unsubscribe id) (hstart : hook ≠ .start id true) :
    SoundAt id (k.statuses id) (Hook.lately id (hook :: k.log)) := by
  have hat : SoundAt id (k.statuses id) (Hook.lately id k.log) :=
    ⟨h.started id, h.loaded id, h.idle id⟩
  rw [Hook.lately_other hkept]
  exact hat.cons hstart

theorem Sound.record (h : k.Sound)
    (hkept : ∀ id, hook ≠ .unsubscribe id) (hstart : ∀ id, hook ≠ .start id true)
    (hallowed : Hook.Allowed k.log hook) : (k.record hook).Sound :=
  .of_at ⟨hallowed, h.calls⟩ (fun id => h.atLog (hkept id) (hstart id)) h.known

theorem Sound.set (log : List Hook) {status : ModuleStatus} (h : k.Sound)
    (hcalls : Guarded Hook.Allowed log) (hat : SoundAt id status (Hook.lately id log))
    (hothers : ∀ j, j ≠ id → SoundAt j (k.statuses j) (Hook.lately j log))
    (hknown : (k.modules.find? id).isSome) :
    Sound { k.setStatus id status with log := log } := by
  apply Sound.of_at hcalls
  · intro j
    change SoundAt j ((k.setStatus id status).statuses j) _
    rw [statuses_setStatus]
    by_cases hid : j = id
    · rw [if_pos hid, hid]
      exact hat
    · rw [if_neg hid]
      exact hothers j hid
  · intro j hj
    by_cases hid : j = id
    · rw [hid]
      exact hknown
    · change (k.setStatus id status).statuses j ≠ _ at hj
      rw [statuses_setStatus, if_neg hid] at hj
      exact h.known j hj

theorem Sound.started_ok (h : k.Sound) (hload : .load id true ∈ Hook.lately id k.log)
    (hidle : ¬ Hook.Running id k.log) (hknown : (k.modules.find? id).isSome) :
    ((k.record (.start id true)).setStatus id .started).Sound := by
  apply h.set (.start id true :: k.log) ⟨hidle, h.calls⟩ _ _ hknown
  · rw [Hook.lately_other (by simp)]
    exact ⟨fun _ => then_cons_self _ hload, by simp, by simp⟩
  · intro j hid
    exact h.atLog (by simp) (by simp [Ne.symm hid])

theorem loadDue (hloaded : k.statuses id ≠ .loaded) (hstarted : k.statuses id ≠ .started)
    (hhalf : ¬ k.HalfLoaded id) : ¬ Hook.LoadCalled id k.log :=
  fun hcalled => hhalf ⟨hloaded, hstarted, hcalled⟩

theorem Sound.loadFailed (h : k.Sound)
    (hfresh : ¬ Hook.LoadCalled id k.log) : (k.record (.load id false)).Sound :=
  h.record (by simp) (by simp) hfresh

theorem Sound.loadOk (h : k.Sound) (hfresh : ¬ Hook.LoadCalled id k.log)
    (hstarted : k.statuses id ≠ .started) (hknown : (k.modules.find? id).isSome) :
    ((k.record (.load id true)).setStatus id .loaded).Sound := by
  have hat : SoundAt id (k.statuses id) (Hook.lately id (.load id true :: k.log)) :=
    h.atLog (by simp) (by simp)
  apply h.set (.load id true :: k.log) ⟨hfresh, h.calls⟩ _ _ hknown
  · refine ⟨by simp, fun _ => ?_, fun _ => hat.idle hstarted⟩
    rw [Hook.lately_other (by simp)]
    exact List.mem_cons_self
  · intro j _
    exact h.atLog (by simp) (by simp)

theorem Sound.startFailed (h : k.Sound)
    (hidle : ¬ Hook.Running id k.log) : (k.record (.start id false)).Sound :=
  h.record (by simp) (by simp) hidle

theorem startable_iff (status : ModuleStatus) :
    startable status = true ↔ status = .loaded ∨ status = .stopped := by
  simp [startable]

theorem Sound.idle_of_startable (h : k.Sound)
    (hstartable : startable (k.statuses id) = true) : ¬ Hook.Running id k.log := by
  apply h.idle
  rcases (startable_iff _).mp hstartable with heq | heq <;> simp [heq]

/-- The log of the second continues that of the first. -/
def LogGrows (k k' : Kernel) : Prop := ∃ l, k'.log = l ++ k.log

theorem LogGrows.refl (k : Kernel) : k.LogGrows k := ⟨[], rfl⟩

variable {k' k'' : Kernel}

theorem LogGrows.trans (h : k.LogGrows k') (h' : k'.LogGrows k'') : k.LogGrows k'' := by
  obtain ⟨l, hl⟩ := h
  obtain ⟨l', hl'⟩ := h'
  exact ⟨l' ++ l, by rw [hl', hl, List.append_assoc]⟩

theorem LogGrows.guarded (h : k.LogGrows k')
    (hcalls : Guarded Hook.Allowed k'.log) : Guarded Hook.Allowed k.log := by
  obtain ⟨l, hl⟩ := h
  rw [hl] at hcalls
  exact hcalls.of_append

theorem loadModules_grows (r : HookResults) (order : List String) (k : Kernel) :
    k.LogGrows (loadModules r k order).1 := by
  induction order generalizing k with
  | nil => exact .refl k
  | cons id order ih =>
    rw [loadModules]
    split
    · exact ih k
    · split
      · exact .refl k
      · split
        · exact ⟨[.load id false], rfl⟩
        · exact .trans ⟨[.load id true], rfl⟩ (ih _)

variable {r : HookResults} {order : List String}

theorem loadModules_sound (h : k.Sound)
    (hfresh : k.LoadsFresh r order) : (loadModules r k order).1.Sound := by
  induction order generalizing k with
  | nil => exact h
  | cons id order ih =>
    rw [loadModules]
    rw [LoadsFresh] at hfresh
    by_cases hloaded : k.statuses id = .loaded
    · rw [if_pos hloaded] at hfresh ⊢
      exact ih h hfresh
    · rw [if_neg hloaded] at hfresh ⊢
      cases hknown : k.modules.find? id with
      | none => exact h
      | some module =>
        simp only [hknown, Option.isNone_some, Bool.false_eq_true, if_false] at hfresh ⊢
        obtain ⟨hstarted, hhalf, hrest⟩ := hfresh
        have hdue := loadDue hloaded hstarted hhalf
        cases hon : r.onLoad id with
        | some source => exact h.loadFailed hdue
        | none => exact ih (h.loadOk hdue hstarted (by rw [hknown]; rfl)) (hrest hon)

theorem loadModules_fresh (h : k.Sound)
    (hcalls : Guarded Hook.Allowed (loadModules r k order).1.log) : k.LoadsFresh r order := by
  induction order generalizing k with
  | nil => trivial
  | cons id order ih =>
    rw [loadModules] at hcalls
    rw [LoadsFresh]
    by_cases hloaded : k.statuses id = .loaded
    · rw [if_pos hloaded] at hcalls ⊢
      exact ih h hcalls
    · rw [if_neg hloaded] at hcalls ⊢
      cases hknown : k.modules.find? id with
      | none => simp
      | some module =>
        simp only [hknown, Option.isNone_some, Bool.false_eq_true, if_false] at hcalls ⊢
        have hdue : ¬ Hook.LoadCalled id k.log := by
          cases hon : r.onLoad id with
          | some source =>
            rw [hon] at hcalls
            exact hcalls.1
          | none =>
            rw [hon] at hcalls
            exact ((loadModules_grows r order _).guarded hcalls).1
        have hstarted : k.statuses id ≠ .started :=
          fun heq => hdue (Hook.loadCalled_of_then (h.started id heq))
        refine ⟨hstarted, fun hhalf => hdue hhalf.2.2, ?_⟩
        intro hon
        rw [hon] at hcalls
        exact ih (h.loadOk hdue hstarted (by rw [hknown]; rfl)) hcalls

theorem startModules_sound (h : k.Sound)
    (hloaded : k.StartsLoaded r order) : (startModules r k order).1.Sound := by
  induction order generalizing k with
  | nil => exact h
  | cons id order ih =>
    rw [startModules]
    rw [StartsLoaded] at hloaded
    cases hknown : k.modules.find? id with
    | none => exact h
    | some module =>
      simp only [hknown, Option.isNone_some, Bool.false_eq_true, if_false] at hloaded ⊢
      cases hstartable : startable (k.statuses id) with
      | false => exact h
      | true =>
        simp only [hstartable, Bool.not_true, Bool.false_eq_true, if_false] at hloaded ⊢
        have hidle := h.idle_of_startable hstartable
        cases hon : r.onStart id with
        | some source => exact h.startFailed hidle
        | none =>
          obtain ⟨hstopped, hrest⟩ := hloaded hon
          have hload : .load id true ∈ Hook.lately id k.log := by
            rcases (startable_iff _).mp hstartable with heq | heq
            · exact h.loaded id heq
            · exact hstopped heq
          exact ih (h.started_ok hload hidle (by rw [hknown]; rfl)) hrest

/-- Nothing is loaded, no handlers are removed, and what was started stays so. -/
structure StartsOnly (k k' : Kernel) : Prop where
  started : ∀ id, k.statuses id = .started → k'.statuses id = .started
  loads : ∀ id, .load id true ∈ Hook.lately id k'.log ↔ .load id true ∈ Hook.lately id k.log

theorem StartsOnly.refl (k : Kernel) : k.StartsOnly k := ⟨fun _ h => h, fun _ => .rfl⟩

theorem StartsOnly.trans (h : k.StartsOnly k') (h' : k'.StartsOnly k'') : k.StartsOnly k'' :=
  ⟨fun id hid => h'.started id (h.started id hid), fun id => (h'.loads id).trans (h.loads id)⟩

theorem startsOnly_record (k : Kernel) (hkept : ∀ id, hook ≠ .unsubscribe id)
    (hload : ∀ id, hook ≠ .load id true) : k.StartsOnly (k.record hook) where
  started := fun _ h => h
  loads := by
    intro id
    change _ ∈ Hook.lately id (hook :: k.log) ↔ _
    rw [Hook.lately_other (hkept id), List.mem_cons]
    exact or_iff_right (Ne.symm (hload id))

theorem startsOnly_setStarted (k : Kernel) (id : String) :
    k.StartsOnly (k.setStatus id .started) where
  started := by
    intro j hj
    rw [statuses_setStatus]
    split
    · rfl
    · exact hj
  loads := fun _ => .rfl

section Path

variable {R : Kernel → Kernel → Prop} (hrefl : ∀ k, R k k)
  (htrans : ∀ {a b c}, R a b → R b c → R a c)

include hrefl htrans

theorem startModules_path (hfailed : ∀ k id, R k (k.record (.start id false)))
    (hstarted : ∀ k id, R k ((k.record (.start id true)).setStatus id .started)) (r : HookResults)
    (order : List String) (k : Kernel) : R k (startModules r k order).1 := by
  induction order generalizing k with
  | nil => exact hrefl k
  | cons id order ih =>
    rw [startModules]
    split
    · exact hrefl k
    · split
      · exact hrefl k
      · split
        · exact hfailed k id
        · exact htrans (hstarted k id) (ih _)

theorem startServices_path (hfailed : ∀ k id, R k (k.record (.serviceStart id false)))
    (hstarted : ∀ k id ids, R k { k.record (.serviceStart id true) with startedServiceIds := ids })
    (r : HookResults) (services : List String) (k : Kernel) : R k (startServices r k services).1 := by
  induction services generalizing k with
  | nil => exact hrefl k
  | cons id services ih =>
    rw [startServices]
    split
    · exact hfailed k id
    · exact htrans (hstarted k id _) (ih _)

end Path

theorem startsOnly_started (k : Kernel) (id : String) :
    k.StartsOnly ((k.record (.start id true)).setStatus id .started) :=
  (startsOnly_record k (by simp) (by simp)).trans (startsOnly_setStarted _ id)

theorem startModules_startsOnly (r : HookResults) (order : List String) (k : Kernel) :
    k.StartsOnly (startModules r k order).1 :=
  startModules_path .refl .trans (fun k _ => startsOnly_record k (by simp) (by simp))
    startsOnly_started r order k

theorem startModules_loaded {last : Kernel}
    (h : k.Sound) (hlast : (startModules r k order).1.StartsOnly last) (hend : last.Orderly) :
    k.StartsLoaded r order := by
  induction order generalizing k with
  | nil => trivial
  | cons id order ih =>
    rw [startModules] at hlast
    rw [StartsLoaded]
    cases hknown : k.modules.find? id with
    | none => simp
    | some module =>
      simp only [hknown, Option.isNone_some, Bool.false_eq_true, if_false] at hlast ⊢
      cases hstartable : startable (k.statuses id) with
      | false => simp
      | true =>
        simp only [hstartable, Bool.not_true, Bool.false_eq_true, if_false] at hlast ⊢
        intro hon
        rw [hon] at hlast
        have hpath := (startModules_startsOnly r order _).trans hlast
        have hstarted := hpath.started id (by rw [statuses_setStatus, if_pos rfl])
        have hload : .load id true ∈ Hook.lately id k.log :=
          (((startsOnly_started k id).trans hpath).loads id).mp (hend.started id hstarted).left_mem
        exact ⟨fun _ => hload,
          ih (h.started_ok hload (h.idle_of_startable hstartable) (by rw [hknown]; rfl)) hlast⟩

theorem Sound.congr (h : k.Sound) (hmodules : k'.modules = k.modules)
    (hstatuses : k'.statuses = k.statuses) (hlog : k'.log = k.log) : k'.Sound where
  calls := hlog ▸ h.calls
  started := fun id => by rw [hstatuses, hlog]; exact h.started id
  loaded := fun id => by rw [hstatuses, hlog]; exact h.loaded id
  idle := fun id => by rw [hstatuses, hlog]; exact h.idle id
  known := fun id => by rw [hstatuses, hmodules]; exact h.known id

theorem startServices_sound {services : List String}
    (h : k.Sound) : (startServices r k services).1.Sound :=
  startServices_path (R := fun k k' => k.Sound → k'.Sound) (fun _ h => h)
    (fun hfirst hlater h => hlater (hfirst h))
    (fun _ _ h => h.record (by simp) (by simp) trivial)
    (fun k id _ h => Sound.congr (k := k.record (.serviceStart id true))
      (h.record (by simp) (by simp) trivial) rfl rfl rfl) r services k h

theorem startServices_startsOnly (r : HookResults) (services : List String) (k : Kernel) :
    k.StartsOnly (startServices r k services).1 :=
  startServices_path .refl .trans (fun k _ => startsOnly_record k (by simp) (by simp))
    (fun k id _ => .trans
      (show k.StartsOnly (k.record (.serviceStart id true)) from startsOnly_record k (by simp) (by simp))
      ⟨fun _ h => h, fun _ => .rfl⟩) r services k

variable {orders : HashOrders}

theorem startLoaded_keeps {P : Kernel → Prop}
    (hrefused : ∀ e, k.resolveDependencies orders = .error e → P k)
    (hmodules : ∀ order, k.resolveDependencies orders = .ok order → P (startModules r k order).1)
    (hservices : ∀ k services, P k → P (startServices r k services).1)
    (hcleared : ∀ k, P k → P { k with startedServiceIds := [] })
    (hflag : ∀ k, P k → P { k with started := true }) : P (k.startLoaded r orders).1 := by
  unfold startLoaded
  cases hresolve : k.resolveDependencies orders with
  | error e => exact hrefused e hresolve
  | ok order =>
    have hmid := hmodules order hresolve
    simp only
    cases hstart : startModules r k order with
    | mk k' e =>
      rw [hstart] at hmid
      cases e with
      | some e => exact hmid
      | none =>
        have hdone := hservices _ k'.services (hcleared k' hmid)
        simp only
        cases hserve : startServices r { k' with startedServiceIds := [] } k'.services with
        | mk k'' e' =>
          rw [hserve] at hdone
          cases e' with
          | some e' => exact hdone
          | none => exact hflag k'' hdone

theorem startLoaded_sound (h : k.Sound)
    (hloaded : k.StartLoaded r orders) : (k.startLoaded r orders).1.Sound :=
  startLoaded_keeps (fun _ _ => h) (fun order ho => startModules_sound h (hloaded order ho))
    (fun _ _ => startServices_sound) (fun _ h => h.congr rfl rfl rfl)
    (fun _ h => h.congr rfl rfl rfl)

theorem startLoaded_loaded (h : k.Sound)
    (hend : (k.startLoaded r orders).1.Orderly) : k.StartLoaded r orders := by
  intro order hresolve
  have hlast : (startModules r k order).1.StartsOnly (k.startLoaded r orders).1 := by
    apply startLoaded_keeps
    · intro e he
      rw [hresolve] at he
      cases he
    · intro o ho
      rw [hresolve] at ho
      cases ho
      exact .refl _
    · intro k' services hk
      exact hk.trans (startServices_startsOnly r services k')
    · intro k' hk
      exact ⟨hk.started, hk.loads⟩
    · intro k' hk
      exact ⟨hk.started, hk.loads⟩
  exact startModules_loaded h hlast hend

theorem startLoaded_grows (k : Kernel) (r : HookResults) (orders : HashOrders) :
    k.LogGrows (k.startLoaded r orders).1 := by
  apply startLoaded_keeps
  · exact fun _ _ => .refl k
  · intro order _
    exact startModules_path .refl .trans (fun _ id => ⟨[.start id false], rfl⟩)
      (fun _ id => ⟨[.start id true], rfl⟩) r order k
  · intro k' services hk
    exact hk.trans (startServices_path .refl .trans (fun _ id => ⟨[.serviceStart id false], rfl⟩)
      (fun _ id _ => ⟨[.serviceStart id true], rfl⟩) r services k')
  · exact fun _ hk => hk
  · exact fun _ hk => hk

theorem loadAll_sound (h : k.Sound)
    (hfresh : k.LoadFresh r orders) : (k.loadAll r orders).1.Sound := by
  unfold loadAll
  split
  · exact h
  · cases hresolve : k.resolveDependencies orders with
    | error e => exact h
    | ok order =>
      have hmodules := loadModules_sound h (hfresh order hresolve)
      simp only
      cases hload : loadModules r k order with
      | mk k' e =>
        rw [hload] at hmodules
        cases e with
        | some e => exact hmodules
        | none => exact hmodules.congr rfl rfl rfl

theorem resolveDependencies_empty (h : k.modules.rows.isEmpty = true)
    (orders : HashOrders) : k.resolveDependencies orders = .ok [] := by
  have hnil := List.isEmpty_iff.mp h
  unfold resolveDependencies moduleIds
  simp [hnil]

theorem loadAll_fresh (h : k.Sound)
    (hcalls : Guarded Hook.Allowed (k.loadAll r orders).1.log) : k.LoadFresh r orders := by
  intro order hresolve
  unfold loadAll at hcalls
  cases hempty : k.modules.rows.isEmpty with
  | true =>
    rw [resolveDependencies_empty hempty] at hresolve
    cases hresolve
    trivial
  | false =>
    simp only [hempty, Bool.false_eq_true, if_false, hresolve] at hcalls
    apply loadModules_fresh h
    cases hload : loadModules r k order with
    | mk k' e =>
      rw [hload] at hcalls
      cases e with
      | some e => exact hcalls
      | none => exact hcalls

theorem startAll_sound (h : k.Sound)
    {loading starting : HashOrders} (htimely : k.Timely (.startAll r loading starting)) :
    (k.startAll r loading starting).1.Sound := by
  unfold Timely at htimely
  unfold startAll
  cases hflag : k.loaded with
  | true =>
    rw [hflag] at htimely
    exact startLoaded_sound h htimely
  | false =>
    rw [hflag] at htimely
    have hmid := loadAll_sound h htimely.1
    simp only [Bool.false_eq_true, if_false]
    cases hload : k.loadAll r loading with
    | mk k' res =>
      rw [hload] at hmid
      cases res with
      | error e => exact hmid
      | ok _ =>
        have hstart := htimely.2 (by rw [hload])
        rw [hload] at hstart
        exact startLoaded_sound hmid hstart

theorem startAll_timely (h : k.Sound)
    {loading starting : HashOrders} (hend : (k.startAll r loading starting).1.Orderly) :
    k.Timely (.startAll r loading starting) := by
  unfold Timely
  unfold startAll at hend
  cases hflag : k.loaded with
  | true =>
    rw [hflag] at hend
    exact startLoaded_loaded h hend
  | false =>
    simp only [hflag, Bool.false_eq_true, if_false] at hend ⊢
    cases hload : k.loadAll r loading with
    | mk k' res =>
      rw [hload] at hend
      cases res with
      | error e =>
        refine ⟨loadAll_fresh h ?_, fun hok => by cases hok⟩
        rw [hload]
        exact hend.calls
      | ok _ =>
        have hfresh : k.LoadFresh r loading := by
          apply loadAll_fresh h
          rw [hload]
          exact (startLoaded_grows k' r starting).guarded hend.calls
        have hmid := loadAll_sound h hfresh
        rw [hload] at hmid
        exact ⟨hfresh, fun _ => startLoaded_loaded hmid hend⟩

/-- The second adds only calls that load and start nothing. -/
structure Winds (k k' : Kernel) : Prop where
  log : ∃ l, k'.log = l ++ k.log ∧ ∀ hook ∈ l, hook.Passive
  statuses : k'.statuses = k.statuses
  modules : k'.modules = k.modules

theorem Winds.refl (k : Kernel) : k.Winds k := ⟨⟨[], rfl, by simp⟩, rfl, rfl⟩

theorem Winds.trans (h : k.Winds k') (h' : k'.Winds k'') : k.Winds k'' := by
  obtain ⟨l, hl, hpassive⟩ := h.log
  obtain ⟨l', hl', hpassive'⟩ := h'.log
  refine ⟨⟨l' ++ l, by rw [hl', hl, List.append_assoc], ?_⟩, h'.statuses.trans h.statuses,
    h'.modules.trans h.modules⟩
  intro hook hmem
  rcases List.mem_append.mp hmem with hmem | hmem
  · exact hpassive' hook hmem
  · exact hpassive hook hmem

theorem winds_record (k : Kernel) (h : hook.Passive) : k.Winds (k.record hook) :=
  ⟨⟨[hook], rfl, by simpa using h⟩, rfl, rfl⟩

theorem Winds.running (h : k.Winds k') (hrun : Hook.Running id k'.log) : Hook.Running id k.log := by
  obtain ⟨l, hl, hpassive⟩ := h.log
  rw [hl] at hrun
  clear hl
  induction l with
  | nil => exact hrun
  | cons hook l ih =>
    exact ih (Hook.running_of_passive (hpassive hook List.mem_cons_self) hrun)
      (fun d hd => hpassive d (List.mem_cons_of_mem hook hd))

theorem Winds.guarded (h : k.Winds k') (hcalls : Guarded Hook.Allowed k.log) :
    Guarded Hook.Allowed k'.log := by
  obtain ⟨l, hl, hpassive⟩ := h.log
  rw [hl]
  exact hcalls.append (fun hook hmem past => (hpassive hook hmem).allowed past)

theorem stopServices_winds (r : HookResults) (services : List String) (k : Kernel) :
    k.Winds (stopServices r k services).1 := by
  induction services generalizing k with
  | nil => exact .refl k
  | cons id services ih =>
    rw [stopServices]
    split
    · exact ih k
    · cases r.serviceStop id with
      | some source => exact (winds_record k (Hook.passive_serviceStop id false)).trans (ih _)
      | none => exact (winds_record k (Hook.passive_serviceStop id true)).trans (ih _)

theorem winds_stopOne (k : Kernel) (id : String) (ok : Bool) :
    k.Winds ((k.record (.stop id ok)).record (.unsubscribe id)) :=
  (winds_record k (Hook.passive_stop id ok)).trans (winds_record _ (Hook.passive_unsubscribe id))

theorem stopModules_winds (r : HookResults) (order : List String) (k : Kernel) :
    k.Winds (stopModules r k order).1 := by
  induction order generalizing k with
  | nil => exact .refl k
  | cons id order ih =>
    rw [stopModules]
    cases r.onStop id with
    | some source => exact (winds_stopOne k id false).trans (ih _)
    | none => exact (winds_stopOne k id true).trans (ih _)

theorem not_running_unsubscribed (k : Kernel) (id : String) :
    ¬ Hook.Running id (k.record (.unsubscribe id)).log := by
  unfold Hook.Running
  change _ ∉ Hook.lately id (.unsubscribe id :: k.log)
  rw [Hook.lately_unsubscribe]
  simp

theorem stopModules_idle
    (hmem : id ∈ order) (k : Kernel) : ¬ Hook.Running id (stopModules r k order).1.log := by
  induction order generalizing k with
  | nil => cases hmem
  | cons j order ih =>
    rw [stopModules]
    rcases List.mem_cons.mp hmem with heq | hrest
    · subst heq
      cases r.onStop id with
      | some source =>
        exact fun hrun => not_running_unsubscribed _ id ((stopModules_winds r order _).running hrun)
      | none =>
        exact fun hrun => not_running_unsubscribed _ id ((stopModules_winds r order _).running hrun)
    · cases r.onStop j with
      | some source => exact ih hrest _
      | none => exact ih hrest _

theorem mem_moduleIds (k : Kernel) (id : String) :
    id ∈ k.moduleIds ↔ (k.modules.find? id).isSome := by
  rw [Table.isSome_find?_iff]
  simp [moduleIds]

theorem mem_of_resolved
    (h : k.resolveDependencies orders = .ok order) (hid : id ∈ k.moduleIds) : id ∈ order :=
  (sorted_of_ok orders h).perm.mem_iff.mpr hid

variable (status : ModuleStatus)

theorem settle_eq_started : settle status ≠ .started := by
  cases status <;> simp [settle]

theorem settle_eq_loaded : settle status ≠ .loaded := by
  cases status <;> simp [settle]

theorem settle_eq_registered {status : ModuleStatus} (h : settle status ≠ .registered) :
    status ≠ .registered := by
  rintro rfl
  exact h rfl

theorem stopAll_sound (h : k.Sound) (r : HookResults) (orders : HashOrders) :
    (k.stopAll r orders).1.Sound := by
  have hservices := stopServices_winds r k.services.reverse k
  generalize hmid : (stopServices r k k.services.reverse).1 = mid at hservices
  obtain ⟨order, hcovers, hfinal⟩ : ∃ order, (∀ id ∈ mid.moduleIds, id ∈ order) ∧
      (k.stopAll r orders).1 = { (stopModules r mid order).1 with
        statuses := fun id => settle ((stopModules r mid order).1.statuses id)
        loaded := false
        started := false
        startedServiceIds := [] } := by
    subst hmid
    cases hresolve : (stopServices r k k.services.reverse).1.resolveDependencies orders with
    | ok sorted =>
      refine ⟨_, fun id hid => List.mem_reverse.mpr (mem_of_resolved hresolve hid), ?_⟩
      simp only [stopAll, hresolve]
    | error e =>
      refine ⟨_, fun id hid => (orders.modules.perm _).mem_iff.mpr hid, ?_⟩
      simp only [stopAll, hresolve]
  have hmodules := stopModules_winds r order mid
  have hwinds := hservices.trans hmodules
  rw [hfinal]
  refine ⟨⟨hwinds.guarded h.calls, ?_⟩, ?_, ?_, ?_⟩
  · intro id hid
    exact absurd hid (settle_eq_started _)
  · intro id hid
    exact absurd hid (settle_eq_loaded _)
  · intro id _ hrun
    by_cases hstarted : k.statuses id = .started
    · have hknown := h.known id (by rw [hstarted]; simp)
      rw [← mem_moduleIds] at hknown
      have hid : id ∈ mid.moduleIds := by
        rw [moduleIds, hservices.modules]
        exact hknown
      exact stopModules_idle (hcovers id hid) mid hrun
    · exact h.idle id hstarted (hwinds.running hrun)
  · intro id hid
    have hstatus := settle_eq_registered hid
    rw [hwinds.statuses] at hstatus
    change ((stopModules r mid order).1.modules.find? id).isSome
    rw [hwinds.modules]
    exact h.known id hstatus

theorem startModule_sound (h : k.Sound)
    (htimely : k.Timely (.startModule r id)) : (k.startModule r id).1.Sound := by
  unfold Timely at htimely
  unfold startModule
  cases hknown : k.modules.find? id with
  | none => exact h
  | some module =>
    have hsome : (k.modules.find? id).isSome := by rw [hknown]; rfl
    simp only [Option.isNone_some, Bool.false_eq_true, if_false]
    cases hstartable : startable (k.statuses id) with
    | false => exact h
    | true =>
      have hidle := h.idle_of_startable hstartable
      simp only [Bool.not_true, Bool.false_eq_true, if_false]
      by_cases hstopped : k.statuses id = .stopped
      · simp only [if_pos hstopped]
        have hdue : ¬ Hook.LoadCalled id k.log :=
          loadDue (by simp [hstopped]) (by simp [hstopped]) (htimely hstopped)
        cases hon : r.onLoad id with
        | some source => exact h.loadFailed hdue
        | none =>
          have hrecord : (k.record (.load id true)).Sound := h.record (by simp) (by simp) hdue
          have hidle' : ¬ Hook.Running id (k.record (.load id true)).log :=
            hrecord.idle_of_startable hstartable
          have hload : .load id true ∈ Hook.lately id (k.record (.load id true)).log := by
            change _ ∈ Hook.lately id (.load id true :: k.log)
            rw [Hook.lately_other (by simp)]
            exact List.mem_cons_self
          simp only [Option.isNone_none]
          cases r.onStart id with
          | some source => exact hrecord.startFailed hidle'
          | none => exact hrecord.started_ok hload hidle' hsome
      · simp only [if_neg hstopped]
        have hloaded := ((startable_iff _).mp hstartable).resolve_right hstopped
        cases r.onStart id with
        | some source => exact h.startFailed hidle
        | none => exact h.started_ok (h.loaded id hloaded) hidle hsome

theorem startModule_timely (h : k.Sound)
    (hcalls : Guarded Hook.Allowed (k.startModule r id).1.log) : k.Timely (.startModule r id) := by
  intro hstopped hhalf
  have hknown := h.known id (by rw [hstopped]; simp)
  obtain ⟨module, hmodule⟩ := Option.isSome_iff_exists.mp hknown
  unfold startModule at hcalls
  simp only [hmodule, Option.isNone_some, Bool.false_eq_true, if_false, hstopped, startable,
    decide_true, Bool.or_true, Bool.not_true, if_true] at hcalls
  apply hhalf.2.2.elim
  intro ok hload
  have hdue : ¬ Hook.LoadCalled id k.log := by
    cases hon : r.onLoad id with
    | some source =>
      rw [hon] at hcalls
      exact hcalls.1
    | none =>
      rw [hon] at hcalls
      cases hstart : r.onStart id with
      | some source =>
        rw [hstart] at hcalls
        exact hcalls.2.1
      | none =>
        rw [hstart] at hcalls
        exact hcalls.2.1
  exact hdue ⟨ok, hload⟩

theorem stopModule_sound (h : k.Sound) (r : HookResults) (id : String) :
    (k.stopModule r id).1.Sound := by
  unfold stopModule
  split
  · exact h
  · rename_i hknown
    split
    · exact h
    · cases r.onStop id with
      | some source => exact h.record (by simp) (by simp) trivial
      | none =>
        have hrecord : (k.record (.stop id true)).Sound := h.record (by simp) (by simp) trivial
        have hsome : ((k.record (.stop id true)).modules.find? id).isSome := by
          rw [Option.isSome_iff_ne_none]
          exact fun hnone => hknown (by rw [show k.modules.find? id = none from hnone]; rfl)
        apply hrecord.set (.unsubscribe id :: .stop id true :: k.log)
          ⟨trivial, hrecord.calls⟩ _ _ hsome
        · rw [Hook.lately_unsubscribe]
          exact ⟨by simp, by simp, by simp⟩
        · intro j hid
          exact hrecord.atLog (by simp [Ne.symm hid]) (by simp)

theorem register_sound (h : k.Sound) (module : KernelModule) : (k.register module).1.Sound := by
  unfold register
  cases hinsert : k.modules.insert? module with
  | none => exact h
  | some modules =>
    have hnew : k.modules.find? module.id = none := by
      rw [← Table.insert?_isSome_iff, hinsert]
      rfl
    have hregistered : k.statuses module.id = .registered := by
      by_contra hne
      have hsome := h.known module.id hne
      rw [hnew] at hsome
      cases hsome
    have hsame : (({ k with modules := modules } : Kernel).setStatus module.id .registered).statuses =
        k.statuses := by
      funext j
      rw [statuses_setStatus]
      by_cases hid : j = module.id
      · rw [if_pos hid, hid, hregistered]
      · rw [if_neg hid]
    apply Sound.of_at (k := ({ k with modules := modules } : Kernel).setStatus module.id .registered)
      h.calls
    · intro j
      rw [hsame]
      exact ⟨h.started j, h.loaded j, h.idle j⟩
    · intro j hj
      rw [hsame] at hj
      change (modules.find? j).isSome
      rw [Table.find?_insert? hinsert]
      by_cases hid : module.id = j
      · rw [if_pos hid]
        rfl
      · rw [if_neg hid]
        exact h.known j hj

theorem new_sound : Kernel.new.Sound := by
  refine ⟨⟨trivial, ?_⟩, ?_, ?_, ?_⟩
  · intro id hid
    cases hid
  · intro id hid
    cases hid
  · intro id _ hrun
    cases hrun
  · intro id hid
    exact absurd rfl hid

theorem step_sound (h : k.Sound) {call : KernelCall} (htimely : k.Timely call) :
    (kernelStep k call).1.Sound := by
  cases call with
  | register module => exact register_sound h module
  | registerService id => exact h.congr rfl rfl rfl
  | loadAll r orders => exact loadAll_sound h htimely
  | startAll r loading starting => exact startAll_sound h htimely
  | stopAll r orders => exact stopAll_sound h r orders
  | startModule r id => exact startModule_sound h htimely
  | stopModule r id => exact stopModule_sound h r id

theorem step_timely (h : k.Sound) {call : KernelCall}
    (hend : (kernelStep k call).1.Orderly) : k.Timely call := by
  cases call with
  | register module => trivial
  | registerService id => trivial
  | loadAll r orders => exact loadAll_fresh h hend.calls
  | startAll r loading starting => exact startAll_timely h hend
  | stopAll r orders => trivial
  | startModule r id => exact startModule_timely h hend.calls
  | stopModule r id => trivial

end Kernel

variable (calls : List KernelCall)

theorem along_orderly_iff :
    kernelMachine.Along (fun k call => (kernelMachine.step k call).1.Orderly) .new calls ↔
      kernelMachine.Along Kernel.Timely .new calls := by
  have hstep : ∀ k call, Kernel.Sound k → k.Timely call → (kernelMachine.step k call).1.Sound :=
    fun _ _ h ht => Kernel.step_sound h ht
  apply kernelMachine.along_iff_of_invariant hstep
  · intro k call h
    exact ⟨Kernel.step_timely h, fun ht => (hstep k call h ht).toOrderly⟩
  · exact Kernel.new_sound

/-- In every state of a run of a kernel, the hooks were called in order and each started module
had been loaded and started, if and only if each call comes upon a kernel that it suits. -/
theorem lifecycleHolds_iff :
    (∀ l r, calls = l ++ r → (kernelMachine.run .new l).Orderly) ↔
      kernelMachine.Along Kernel.Timely .new calls := by
  rw [kernelMachine.reached_iff_along, along_orderly_iff]
  exact and_iff_right Kernel.new_sound.toOrderly

def allSucceed : HookResults :=
  ⟨fun _ => none, fun _ => none, fun _ => none, fun _ => none, fun _ => none⟩

def loadedAgain : List KernelCall :=
  [.register ⟨"sales", []⟩, .startAll allSucceed asRegistered asRegistered,
    .loadAll allSucceed asRegistered]

theorem loadedAgain_disorderly :
    (kernelMachine.run .new loadedAgain).log =
        [.load "sales" true, .start "sales" true, .load "sales" true] ∧
      ¬ ∀ l r, loadedAgain = l ++ r → (kernelMachine.run .new l).Orderly := by
  have hlog : (kernelMachine.run .new loadedAgain).log =
      [.load "sales" true, .start "sales" true, .load "sales" true] := by rfl
  refine ⟨hlog, ?_⟩
  intro h
  have hcalls := (h loadedAgain [] (by simp)).calls
  rw [hlog] at hcalls
  exact hcalls.1 ⟨true, by decide⟩

end OzPos
