import Switchboard.Proofs.Restriction
import Switchboard.Proofs.Routing

/-!
# Steps within one group

Take steps that stay inside one of two groups of slots and libraries, that never attach the log, and
that connect the group without the shared slot to no callback that acts on the shared slot. Then
libraries are registered only with slots of their own group (`Split.Confined`). So a step of the
first group does to what the first group sees what it would do if there were no second group, and a
step of the second group does nothing to it.
-/

namespace Switchboard

/-- The library that a gateway leads to, if there is a gateway at this place. -/
def libraryAt (gateways : List Gateway) (place : Nat) : List Resource :=
  (gateways[place]?.map fun g => .library g.library).toList

theorem library_mem_libraryAt {gateways : List Gateway} {place : Nat} {g : Gateway}
    (h : gateways[place]? = some g) : .library g.library ∈ libraryAt gateways place := by
  rw [libraryAt, h]
  exact List.mem_singleton_self _

/-- The slots and the libraries that a step names. -/
def Step.resources (gateways : List Gateway) : Step → List Resource
  | .connect r _ _ | .disconnect r _ | .attachLog r _ | .attachLogOnce r _ | .inspectRoute r =>
    .slot r.slot :: libraryAt gateways r.gateway
  | .connectShared g _ _ => .slot .shared :: libraryAt gateways g
  | .connectLinked _ _ => [.slot .shared, .library .linked]
  | .emit g _ | .askDomains g | .setHandles g _ | .setRefusal g _ => libraryAt gateways g
  | .enter name _ | .deliver name _ | .put name _ | .look name => [.slot name]
  | .log _ | .tag _ | .setCeiling _ | .setMuted _ => []

theorem Step.resources_of_connection? {gateways : List Gateway} {tried : Bool} {s : Step}
    {k : Connection} (h : s.connection? gateways tried = some k) :
    .slot k.route.slot ∈ s.resources gateways ∧ .library k.library ∈ s.resources gateways := by
  have hroute : ∀ (r : RouteRef) (level : Level) (cb : Option Callback),
      (r.resolve? gateways).map (⟨·, level, cb⟩) = some k →
        .slot k.route.slot ∈ Resource.slot r.slot :: libraryAt gateways r.gateway ∧
          .library k.library ∈ Resource.slot r.slot :: libraryAt gateways r.gateway := by
    intro r level cb h
    obtain ⟨g, hg, rfl⟩ := RouteRef.resolve?_map_eq_some h
    exact ⟨List.mem_cons_self, List.mem_cons_of_mem _ (library_mem_libraryAt hg)⟩
  cases s with
  | connect r level cb => exact hroute r level cb h
  | disconnect r level => exact hroute r level none h
  | connectShared i level cb => exact hroute ⟨i, .shared⟩ level cb h
  | connectLinked level cb =>
    simp only [connection?, Option.some.injEq] at h
    subst h
    exact ⟨List.mem_cons_self, List.mem_cons_of_mem _ (List.mem_singleton_self _)⟩
  | attachLog r level => exact hroute r level (some .logger) h
  | attachLogOnce r level =>
    simp only [connection?] at h
    split_ifs at h
    exact hroute r level (some .logger) h
  | _ => simp [connection?] at h

namespace Split

variable (G : Split)

/-- A step stays inside one group, does not attach the log, and puts nothing that acts on the shared
slot where the shared slot is not. -/
structure Respects (gateways : List Gateway) (s : Step) : Prop where
  within : ∀ a ∈ s.resources gateways, ∀ b ∈ s.resources gateways, G.inFirst a = G.inFirst b
  attaches : s.attaches? gateways = none
  stores : ∀ tried, ∀ x ∈ s.writes gateways tried,
    G.inFirst (.slot x.slot) ≠ G.inFirst (.slot .shared) → x.callback.all Callback.isLocal = true

instance (gateways : List Gateway) (s : Step) : Decidable (G.Respects gateways s) :=
  decidable_of_iff
    ((∀ a ∈ s.resources gateways, ∀ b ∈ s.resources gateways, G.inFirst a = G.inFirst b) ∧
      s.attaches? gateways = none ∧
      ∀ tried, ∀ x ∈ s.writes gateways tried,
        G.inFirst (.slot x.slot) ≠ G.inFirst (.slot .shared) →
          x.callback.all Callback.isLocal = true)
    ⟨fun ⟨within, attaches, stores⟩ => ⟨within, attaches, stores⟩,
      fun h => ⟨h.within, h.attaches, h.stores⟩⟩

/-- Whether a step is left when those of the second group are taken out. -/
def keeps (gateways : List Gateway) (s : Step) : Bool :=
  (s.resources gateways).all G.inFirst

/-- The slots are quiet, and libraries are registered with slots of their own group. -/
structure Confined (w : World) : Prop where
  quiet : G.Quiet w.slots
  registered : ∀ id r, (w.libraries id).current = some r →
    G.inFirst (.slot r.via) = G.inFirst (.library id)

variable {G} {gateways : List Gateway} {s : Step}

theorem inFirst_of_keeps (hk : G.keeps gateways s = true) :
    ∀ a ∈ s.resources gateways, G.inFirst a = true :=
  List.all_eq_true.1 hk

theorem Respects.inFirst_of_not_keeps (hr : G.Respects gateways s)
    (hk : G.keeps gateways s = false) : ∀ a ∈ s.resources gateways, G.inFirst a = false := by
  intro a ha
  obtain ⟨b, hb, hf⟩ := List.all_eq_false.1 hk
  rw [hr.within a ha b hb]
  simpa using hf

theorem Quiet.write : ∀ (ws : List Write) {s : Slots}, G.Quiet s →
    (∀ x ∈ ws, G.inFirst (.slot x.slot) ≠ G.inFirst (.slot .shared) →
      x.callback.all Callback.isLocal = true) → G.Quiet (s.write ws)
  | [], _, hq, _ => hq
  | x :: ws, _, hq, h =>
    Quiet.write ws (hq.put (h x List.mem_cons_self)) fun y hy => h y (List.mem_cons_of_mem _ hy)

theorem Confined.step {w : World} (hc : G.Confined w) (hr : G.Respects w.gateways s) :
    G.Confined (w.step s).world := by
  refine ⟨?_, fun id r hcur => ?_⟩
  · rw [World.step_slots, Slots.write_append]
    exact (Quiet.write _ hc.quiet (hr.stores _)).write_events _
  · rw [World.step_current] at hcur
    rcases hreg : w.registered? s id with _ | r'
    · rw [hreg, Option.none_or] at hcur
      exact hc.registered id r hcur
    · rw [hreg, Option.some_or, Option.some.injEq] at hcur
      subst hcur
      obtain ⟨k, hk, ha⟩ := Option.bind_eq_some_iff.1 hreg
      obtain ⟨hs, hl⟩ := Step.resources_of_connection? hk
      unfold World.accepts? at ha
      split_ifs at ha with h
      obtain ⟨-, rfl⟩ := h
      cases ha
      exact hr.within _ hs _ hl

theorem Confined.quiet_connect {w : World} (hc : G.Confined w) {r : RouteRef} {level : Level}
    {cb : Option Callback} (hr : G.Respects w.gateways (.connect r level cb)) {g : Gateway}
    (hg : w.gateways[r.gateway]? = some g) : G.Quiet (w.slots.put r.slot cb) := by
  refine hc.quiet.put (hr.stores false ⟨r.slot, cb⟩ ?_)
  simp only [Step.writes, Step.connection?, RouteRef.resolve?, hg, Option.map_some]
  exact List.mem_singleton_self _

theorem confined_of_fresh {w : World} (h : w.Fresh) : G.Confined w := by
  refine ⟨fun name cb hg _ => ?_, fun id r hcur => ?_⟩
  · rw [h.slots] at hg
    cases name <;> cases hg
  · obtain ⟨image, handles, refusal, hl⟩ := h.libraries id
    rw [hl] at hcur
    cases hcur

end Split

namespace World

variable {G : Split} {w : World} {s : Step}

/-! ### The first group -/

section First

theorem restrict_withGateway_of_first {place : Nat} {run run' : Gateway → Outcome Answer}
    (h : ∀ g, w.gateways[place]? = some g → (run g).restrict G = run' g) :
    (w.withGateway place run).restrict G = (w.restrict G).withGateway place run' := by
  unfold withGateway
  rw [show (w.restrict G).gateways = w.gateways from rfl]
  rcases hg : w.gateways[place]? with _ | g
  · rfl
  · exact h g hg

theorem restrict_connectLinked_of_first (level : Level) {cb : Option Callback}
    (hq : G.Quiet (w.slots.put .shared cb)) (hs : G.inFirst (.slot .shared) = true)
    (hl : G.inFirst (.library .linked) = true) :
    (w.connectLinked level cb).restrict G = (w.restrict G).connectLinked level cb := by
  have h := restrict_connect_of_first w (k := ⟨⟨.linked, .shared⟩, level, cb⟩) hq hs hl
  unfold connectLinked
  rw [← h]
  rfl

theorem restrict_askDomains_of_first {g : Gateway} (h : G.inFirst (.library g.library) = true) :
    (w.askDomains g).restrict G = (w.restrict G).askDomains g := by
  unfold askDomains
  rw [library_restrict w h]
  simp only [Outcome.restrict, restrict_setLibrary_of_first w h]

theorem restrict_adjust_of_first {g : Gateway} (h : G.inFirst (.library g.library) = true)
    (change : Library → Library) :
    (w.adjust g change).restrict G = (w.restrict G).adjust g change := by
  unfold adjust
  rw [library_restrict w h]
  split
  · exact restrict_setLibrary_of_first w h _
  · exact restrict_setLibrary_of_first w h _
  · rfl
  · rfl

theorem restrict_emit_of_first (hc : G.Confined w) {g : Gateway}
    (h : G.inFirst (.library g.library) = true) (c : Call) :
    (w.emit g c).restrict G = (w.restrict G).emit g c := by
  unfold emit
  rw [library_restrict w h]
  rcases hd : (w.library g).destination? c.level with _ | name
  · rfl
  · obtain ⟨r, hr, -, rfl⟩ := Library.destination?_eq_some_iff.1 hd
    have hn : G.inFirst (.slot r.via) = true := (hc.registered g.library r hr).trans h
    simp only [← restrict_deliver_of_first w hc.quiet hn]
    rfl

theorem restrict_perform_connect_of_first (hc : G.Confined w) (r : RouteRef) (level : Level)
    (cb : Option Callback) (hr : G.Respects w.gateways (.connect r level cb))
    (hf : ∀ a ∈ (Step.connect r level cb).resources w.gateways, G.inFirst a = true) :
    (w.perform (.connect r level cb)).restrict G =
      (w.restrict G).perform (.connect r level cb) := by
  refine restrict_withGateway_of_first fun g hg => ?_
  have h := restrict_connect_of_first w (k := ⟨⟨g, r.slot⟩, level, cb⟩) (hc.quiet_connect hr hg)
    (hf _ List.mem_cons_self) (hf _ (List.mem_cons_of_mem _ (library_mem_libraryAt hg)))
  exact congrArg (Outcome.map Answer.result) h

/-- A step of the first group does to what the first group sees what it would do if there were no
second group. -/
theorem restrict_perform_of_first (hc : G.Confined w) (hr : G.Respects w.gateways s)
    (hk : G.keeps w.gateways s = true) :
    (w.perform s).restrict G = (w.restrict G).perform s := by
  have hf := Split.inFirst_of_keeps hk
  cases s with
  | connect r level cb => exact restrict_perform_connect_of_first hc r level cb hr hf
  | disconnect r level =>
    exact restrict_perform_connect_of_first hc r level none ⟨hr.within, hr.attaches, hr.stores⟩ hf
  | connectShared i level cb =>
    exact restrict_perform_connect_of_first hc ⟨i, .shared⟩ level cb
      ⟨hr.within, hr.attaches, hr.stores⟩ hf
  | connectLinked level cb =>
    have hq : G.Quiet (w.slots.put .shared cb) :=
      hc.quiet.put (hr.stores false ⟨.shared, cb⟩ (List.mem_singleton_self _))
    have h := restrict_connectLinked_of_first level hq (hf _ List.mem_cons_self)
      (hf _ (List.mem_cons_of_mem _ (List.mem_singleton_self _)))
    exact congrArg (Outcome.map fun _ => Answer.done) h
  | attachLog r level =>
    refine restrict_withGateway_of_first fun g hg => ?_
    exact absurd (hr.attaches.symm.trans hg) (by simp)
  | attachLogOnce r level =>
    refine restrict_withGateway_of_first fun g hg => ?_
    exact absurd (hr.attaches.symm.trans hg) (by simp)
  | inspectRoute r =>
    refine restrict_withGateway_of_first fun g hg => ?_
    simp only [Slots.isFilled, get_slots_restrict w (hf _ List.mem_cons_self)]
    rfl
  | emit i c =>
    refine restrict_withGateway_of_first fun g hg => ?_
    have h := restrict_emit_of_first hc (hf _ (library_mem_libraryAt hg)) c.wire
    exact congrArg (Outcome.map Answer.delivered) h
  | enter name c =>
    have h := restrict_deliver_of_first w hc.quiet (hf _ List.mem_cons_self) c.wire
    exact congrArg (Outcome.map fun _ => Answer.done) h
  | deliver name c =>
    have h := restrict_deliver_of_first w hc.quiet (hf _ List.mem_cons_self) c.wire
    exact congrArg (Outcome.map fun _ => Answer.done) h
  | log c =>
    have hw : ∀ x ∈ [(⟨.logger, c.wire⟩ : Event)].flatMap Event.writes,
        G.inFirst (.slot x.slot) = true := nofun
    have h := restrict_ofRan_of_first w () hw
    rw [← log_eq, ← log_eq] at h
    exact congrArg (Outcome.map fun _ => Answer.done) h
  | put name cb =>
    have h := restrict_put_of_first w (hf _ List.mem_cons_self) cb
    exact congrArg (Outcome.plain Answer.done) h
  | look name =>
    simp only [perform, Slots.inspect?, Slots.isFilled,
      get_slots_restrict w (hf _ List.mem_cons_self)]
    rfl
  | askDomains i =>
    refine restrict_withGateway_of_first fun g hg => ?_
    have h := restrict_askDomains_of_first (w := w) (hf _ (library_mem_libraryAt hg))
    exact congrArg (Outcome.map Answer.domains) h
  | setHandles i ds =>
    refine restrict_withGateway_of_first fun g hg => ?_
    have h := restrict_adjust_of_first (w := w) (hf _ (library_mem_libraryAt hg))
      fun lib => { lib with handles := ds }
    exact congrArg (Outcome.plain Answer.done) h
  | setRefusal i refusal =>
    refine restrict_withGateway_of_first fun g hg => ?_
    have h := restrict_adjust_of_first (w := w) (hf _ (library_mem_libraryAt hg))
      fun lib => { lib with refusal := refusal }
    exact congrArg (Outcome.plain Answer.done) h
  | tag h => rfl
  | setCeiling ceiling => rfl
  | setMuted targets => rfl

end First

/-! ### The second group -/

section Second

theorem restrict_withGateway_of_second {place : Nat} {run : Gateway → Outcome Answer}
    (h : ∀ g, w.gateways[place]? = some g → (run g).world.restrict G = w.restrict G) :
    (w.withGateway place run).world.restrict G = w.restrict G := by
  unfold withGateway
  rcases hg : w.gateways[place]? with _ | g
  · rfl
  · exact h g hg

theorem restrict_adjust_of_second {g : Gateway} (h : G.inFirst (.library g.library) = false)
    (change : Library → Library) : (w.adjust g change).restrict G = w.restrict G := by
  unfold adjust
  split
  · exact restrict_setLibrary_of_second w h _
  · exact restrict_setLibrary_of_second w h _
  · rfl
  · rfl

theorem restrict_emit_of_second (hc : G.Confined w) {g : Gateway}
    (h : G.inFirst (.library g.library) = false) (c : Call) :
    (w.emit g c).world.restrict G = w.restrict G := by
  unfold emit
  rcases hd : (w.library g).destination? c.level with _ | name
  · rfl
  · obtain ⟨r, hr, -, rfl⟩ := Library.destination?_eq_some_iff.1 hd
    exact restrict_deliver_of_second w hc.quiet ((hc.registered g.library r hr).trans h) c

theorem restrict_perform_connect_of_second (hc : G.Confined w) (r : RouteRef) (level : Level)
    (cb : Option Callback) (hr : G.Respects w.gateways (.connect r level cb))
    (hf : ∀ a ∈ (Step.connect r level cb).resources w.gateways, G.inFirst a = false) :
    (w.perform (.connect r level cb)).world.restrict G = w.restrict G := by
  refine restrict_withGateway_of_second fun g hg => ?_
  exact restrict_connect_of_second w (k := ⟨⟨g, r.slot⟩, level, cb⟩) (hc.quiet_connect hr hg)
    (hf _ List.mem_cons_self) (hf _ (List.mem_cons_of_mem _ (library_mem_libraryAt hg)))

/-- A step of the second group does nothing to what the first group sees. -/
theorem restrict_perform_of_second (hc : G.Confined w) (hr : G.Respects w.gateways s)
    (hk : G.keeps w.gateways s = false) : (w.perform s).world.restrict G = w.restrict G := by
  have hf := hr.inFirst_of_not_keeps hk
  cases s with
  | connect r level cb => exact restrict_perform_connect_of_second hc r level cb hr hf
  | disconnect r level =>
    exact restrict_perform_connect_of_second hc r level none ⟨hr.within, hr.attaches, hr.stores⟩ hf
  | connectShared i level cb =>
    exact restrict_perform_connect_of_second hc ⟨i, .shared⟩ level cb
      ⟨hr.within, hr.attaches, hr.stores⟩ hf
  | connectLinked level cb =>
    have hq : G.Quiet (w.slots.put .shared cb) :=
      hc.quiet.put (hr.stores false ⟨.shared, cb⟩ (List.mem_singleton_self _))
    exact restrict_connect_of_second w (k := ⟨⟨.linked, .shared⟩, level, cb⟩) hq
      (hf _ List.mem_cons_self) (hf _ (List.mem_cons_of_mem _ (List.mem_singleton_self _)))
  | attachLog r level =>
    refine restrict_withGateway_of_second fun g hg => ?_
    exact absurd (hr.attaches.symm.trans hg) (by simp)
  | attachLogOnce r level =>
    refine restrict_withGateway_of_second fun g hg => ?_
    exact absurd (hr.attaches.symm.trans hg) (by simp)
  | inspectRoute r => exact restrict_withGateway_of_second fun g hg => rfl
  | emit i c =>
    refine restrict_withGateway_of_second fun g hg => ?_
    exact restrict_emit_of_second hc (hf _ (library_mem_libraryAt hg)) c.wire
  | enter name c => exact restrict_deliver_of_second w hc.quiet (hf _ List.mem_cons_self) c.wire
  | deliver name c => exact restrict_deliver_of_second w hc.quiet (hf _ List.mem_cons_self) c.wire
  | put name cb => exact restrict_put_of_second w (hf _ List.mem_cons_self) cb
  | look name => rfl
  | askDomains i =>
    refine restrict_withGateway_of_second fun g hg => ?_
    exact restrict_setLibrary_of_second w (hf _ (library_mem_libraryAt hg)) _
  | setHandles i ds =>
    refine restrict_withGateway_of_second fun g hg => ?_
    exact restrict_adjust_of_second (hf _ (library_mem_libraryAt hg)) _
  | setRefusal i refusal =>
    refine restrict_withGateway_of_second fun g hg => ?_
    exact restrict_adjust_of_second (hf _ (library_mem_libraryAt hg)) _
  | log _ | tag _ | setCeiling _ | setMuted _ => cases hk

end Second

end World

end Switchboard
