import Switchboard.Proofs.Routing

/-!
# What a library is told

A library is told two things: registrations, and names of domains that it is asked for. Every
registration that it accepts is counted, names a slot and asks for expanded text, and its level is a
known one unless it comes over a bare gateway. A bare gateway leads to a library of its own
(`Wired`), so other libraries never meet an unknown level.

Names are asked for all at once, in the order of the domains and without leave to create any, so a
library that is linked or opened is asked five at a time (`AskedInTurn`). One that cannot be asked
is not asked.
-/

namespace Switchboard

theorem Domain.ofName?_name (d : Domain) : ofName? d.name = some d := by
  cases d <;> decide

namespace Library

/-- A library that is asked knows its handles, and the last five names it was asked for are those of
the domains in their order. -/
theorem ask_eq (lib : Library) :
    lib.ask = (lib.handles, { lib with lookups := lib.lookups + 5, order := 12345 }) := by
  have hd : ∀ d : Domain, lookup false d.name = fun lib =>
      (lib.handles.get d, { lib with
        lookups := lib.lookups + 1
        order := (lib.order * 10 + orderDigit d.name) % 100000 }) := by
    intro d
    funext lib
    simp only [lookup, Domain.ofName?_name]
    rfl
  have ho : ((((((lib.order * 10 + 1) % 100000 * 10 + 2) % 100000 * 10 + 3) % 100000 * 10 + 4) %
      100000 * 10 + 5) % 100000) = 12345 := by omega
  unfold ask Domains.ask
  simp only [hd]
  exact congrArg (fun n => (lib.handles, { lib with lookups := lib.lookups + 5, order := n })) ho

/-- A library that has only been asked for all domains at once, in their order and without leave to
create any, and not even so if it cannot be asked. -/
structure AskedInTurn (lib : Library) : Prop where
  creates : lib.creates = 0
  lookups : 5 ∣ lib.lookups
  order : lib.lookups ≠ 0 → lib.order = 12345
  nameless : lib.image.namesDomains = false → lib.lookups = 0

namespace AskedInTurn

variable {lib : Library}

theorem fresh (image : Image) (handles : Domains) (refusal : Option Fault) :
    (Library.fresh image handles refusal).AskedInTurn :=
  ⟨rfl, Nat.dvd_zero _, fun h => absurd rfl h, fun _ => rfl⟩

theorem ask (h : lib.AskedInTurn) (hn : lib.image.namesDomains = true) :
    lib.ask.2.AskedInTurn := by
  rw [ask_eq]
  refine ⟨h.creates, Nat.dvd_add h.lookups (Nat.dvd_refl 5), fun _ => rfl, fun hf => ?_⟩
  exact absurd hn (by rw [hf]; exact Bool.false_ne_true)

theorem acceptAny (h : lib.AskedInTurn) (r : Option Registration) :
    (lib.acceptAny r).AskedInTurn := by
  rcases r with _ | r
  · exact h
  · exact ⟨h.creates, h.lookups, h.order, h.nameless⟩

end AskedInTurn

end Library

namespace GatewayKind

/-- Only a bare gateway passes an unknown level on. -/
theorem isKnown_of_no_objection {kind : GatewayKind} {lib : Library} {level : Level}
    (hk : kind ≠ .bare) (h : kind.objection? lib level = none) : level.isKnown = true := by
  by_contra hl
  rcases kind with _ | _ | _ | path
  · simp [objection?, hl] at h
  · exact hk rfl
  · simp [objection?, hl] at h
  · simp [objection?, hl] at h

end GatewayKind

theorem FileTree.get?_of_loadLibrary? {files : FileTree} {path : Bytes} {found : OpenedLibrary}
    (h : files.loadLibrary? path = some found) :
    files.get? found.place = some (.library found.image) := by
  simp only [loadLibrary?] at h
  split_ifs at h
  split at h
  · rename_i place image hf
    obtain rfl := Option.some.inj h
    exact get?_of_follow hf
  · cases h

/-- A library that could be opened is what its path leads to, and takes registrations. -/
theorem FileTree.loadLibrary?_of_openLibrary {files : FileTree} {path : Bytes}
    {found : OpenedLibrary} {records : List Record}
    (h : files.openLibrary path = (.ok found, records)) :
    files.loadLibrary? path = some found ∧ found.image.objection? = none := by
  unfold openLibrary at h
  split at h
  · cases h
  · rename_i lib hl
    split at h
    · rename_i ho
      obtain rfl := Except.ok.inj (Prod.mk.inj h).1
      exact ⟨hl, ho⟩
    · cases h

/-- The gateways that there can be at a place of a process: one to a library that is part of the
program has it for itself. -/
inductive Gateway.Wired (i : Nat) : Gateway → Prop where
  | inner : Wired i ⟨.inner, .own i⟩
  | bare : Wired i ⟨.bare, .own i⟩
  | linked : Wired i Gateway.linked
  | opened (path : Bytes) (place : Place) : Wired i ⟨.opened path, .file place⟩

namespace World

/-- Whether a gateway can be reached: it was opened, or is that of the linked library's entry
point. -/
def HasGateway (w : World) (g : Gateway) : Prop :=
  g ∈ w.gateways ∨ g = .linked

/-- Each gateway leads to a library of its kind, the libraries that are linked or part of the program
are complete, and an opened one is what is found in its file, and takes registrations. -/
structure Wired (files : FileTree) (w : World) : Prop where
  gateways : ∀ i g, w.gateways[i]? = some g → Gateway.Wired i g
  complete : ∀ id, (∀ place, id ≠ .file place) → (w.libraries id).image = .complete
  opened : ∀ g ∈ w.gateways, ∀ place, g.library = .file place →
    files.get? place = some (.library (w.libraries (.file place)).image) ∧
      (w.libraries (.file place)).image.objection? = none

namespace Wired

variable {files : FileTree} {w : World} {g : Gateway}

/-! ### Opening -/

theorem addGateway (h : w.Wired files) (hg : Gateway.Wired w.gateways.length g) {lib : Library}
    (hl : (∀ place, g.library ≠ .file place) → lib.image = .complete)
    (hf : ∀ place, g.library = .file place →
      files.get? place = some (.library lib.image) ∧ lib.image.objection? = none) :
    (w.addGateway g lib).Wired files := by
  refine ⟨fun i g' hi => ?_, fun id hne => ?_, fun g' hg' place hp => ?_⟩
  · have hi' : (w.gateways ++ [g])[i]? = some g' := hi
    rcases Nat.lt_or_ge i w.gateways.length with hlt | hge
    · rw [List.getElem?_append_left hlt] at hi'
      exact h.gateways i g' hi'
    · rw [List.getElem?_append_right hge, List.getElem?_singleton] at hi'
      split_ifs at hi' with h0
      obtain rfl := Option.some.inj hi'
      rwa [show i = w.gateways.length by omega]
  · by_cases hid : id = g.library
    · rw [show (w.addGateway g lib).libraries id = lib from
        hid ▸ setLibrary_libraries_self w g.library lib]
      exact hl (hid ▸ hne)
    · rw [show (w.addGateway g lib).libraries id = w.libraries id from
        setLibrary_libraries_of_ne w hid lib]
      exact h.complete id hne
  · by_cases hid : LibraryId.file place = g.library
    · rw [show (w.addGateway g lib).libraries (.file place) = lib from
        hid ▸ setLibrary_libraries_self w g.library lib]
      exact hf place hid.symm
    · rw [show (w.addGateway g lib).libraries (.file place) = w.libraries (.file place) from
        setLibrary_libraries_of_ne w hid lib]
      rcases List.mem_append.1 (show g' ∈ w.gateways ++ [g] from hg') with hm | hm
      · exact h.opened g' hm place hp
      · rw [List.mem_singleton.1 hm] at hp
        exact absurd hp.symm hid

theorem openGateway (h : w.Wired files) (spec : GatewaySpec) :
    (w.openGateway files spec).world.Wired files := by
  cases spec with
  | inner handles refusal => exact h.addGateway .inner (fun _ => rfl) nofun
  | bare refusal => exact h.addGateway .bare (fun _ => rfl) nofun
  | linked handles => exact h.addGateway .linked (h.complete _) nofun
  | opened path handles =>
    simp only [World.openGateway]
    split
    · exact h
    · rename_i found records hopen
      obtain ⟨hload, ho⟩ := FileTree.loadLibrary?_of_openLibrary hopen
      refine h.addGateway (.opened path found.place) (fun hne => absurd rfl (hne found.place))
        fun place hp => ?_
      obtain rfl := LibraryId.file.inj hp
      exact ⟨FileTree.get?_of_loadLibrary? hload, ho⟩

theorem openAll (files : FileTree) :
    ∀ (specs : List GatewaySpec) {w : World}, w.Wired files →
      (w.openAll files specs).world.Wired files
  | [], _, h => h
  | spec :: specs, _, h => openAll files specs (h.openGateway spec)

end Wired

theorem wired_opened (files : FileTree) (specs : List GatewaySpec) :
    (opened files specs).Wired files :=
  Wired.openAll files specs ⟨nofun, fun _ _ => rfl, nofun⟩

/-! ### Steps -/

section Steps

variable {files : FileTree} {w : World} {g : Gateway}

theorem step_image (w : World) (s : Step) (id : LibraryId) :
    ((w.step s).world.libraries id).image = (w.libraries id).image :=
  (follows_perform w s).image id

theorem step_accepted (w : World) (s : Step) (id : LibraryId) :
    ((w.step s).world.libraries id).accepted =
      (w.libraries id).accepted + (w.registered? s id).toList.length := by
  obtain ⟨lib, ht, hl⟩ := (follows_perform w s).libraries id
  rw [show (w.step s).world.libraries id = _ from hl, ← ht.kept.2.1]
  rcases w.registered? s id with _ | r
  · rfl
  · rfl

theorem Wired.step (h : w.Wired files) (s : Step) : (w.step s).world.Wired files := by
  refine ⟨?_, ?_, ?_⟩
  · rw [step_gateways]
    exact h.gateways
  · simp only [step_image]
    exact h.complete
  · simp only [step_gateways, step_image]
    exact h.opened

theorem Wired.after (h : w.Wired files) : ∀ steps : List Step, (w.after steps).Wired files := by
  intro steps
  induction steps generalizing w with
  | nil => exact h
  | cons s steps ih => exact ih (h.step s)

theorem Wired.image_eq (h : w.Wired files) {path : Bytes} {place : Place} {image : Image}
    (hg : w.HasGateway ⟨.opened path, .file place⟩)
    (hf : files.get? place = some (.library image)) :
    (w.libraries (.file place)).image = image := by
  rcases hg with hm | hl
  · rw [(h.opened _ hm place rfl).1] at hf
    exact FileNode.library.inj (Option.some.inj hf)
  · cases hl

/-- A library counts the registrations that it accepts. -/
theorem accepted_after (id : LibraryId) : ∀ (steps : List Step) (w : World),
    ((w.after steps).libraries id).accepted =
      (w.libraries id).accepted + (registrations id w steps).length
  | [], _ => rfl
  | s :: steps, w => by
    rw [after_cons, accepted_after id steps, step_accepted, registrations, List.length_append,
      Nat.add_assoc]

/-! ### Domains -/

/-- Asking keeps a library asked in turn, unless it is part of the program. -/
theorem askedInTurn_of_touched {id : LibraryId} {lib : Library} (ht : Touched w id lib)
    (hw : w.Wired files) (hid : ∀ i, id ≠ .own i) (h : (w.libraries id).AskedInTurn) :
    lib.AskedInTurn := by
  cases ht with
  | same => exact h
  | @asked g hg =>
    obtain ⟨i, hi⟩ := List.getElem?_of_mem hg
    cases hw.gateways i g hi with
    | inner | bare => exact absurd rfl (hid i)
    | linked =>
      refine h.ask ?_
      rw [show (w.libraries Gateway.linked.library).image = .complete from hw.complete _ nofun]
      rfl
    | opened path place =>
      simp only [GatewayKind.askDomains]
      split
      · rename_i hn
        exact h.ask hn
      · exact h
  | @changed g hg hk =>
    exact ⟨h.creates, h.lookups, h.order, h.nameless⟩

theorem askedInTurn_step {id : LibraryId} (hw : w.Wired files) (hid : ∀ i, id ≠ .own i)
    (h : (w.libraries id).AskedInTurn) (s : Step) :
    ((w.step s).world.libraries id).AskedInTurn := by
  obtain ⟨lib, ht, hl⟩ := (follows_perform w s).libraries id
  rw [show (w.step s).world.libraries id = _ from hl]
  exact (askedInTurn_of_touched ht hw hid h).acceptAny _

theorem askedInTurn_after {id : LibraryId} (hid : ∀ i, id ≠ .own i) :
    ∀ (steps : List Step) {w : World}, w.Wired files → (w.libraries id).AskedInTurn →
      ((w.after steps).libraries id).AskedInTurn
  | [], _, _, h => h
  | s :: steps, _, hw, h =>
    askedInTurn_after hid steps (hw.step s) (askedInTurn_step hw hid h s)

theorem Fresh.askedInTurn (h : w.Fresh) (id : LibraryId) : (w.libraries id).AskedInTurn := by
  obtain ⟨image, handles, refusal, hl⟩ := h.libraries id
  rw [hl]
  exact .fresh image handles refusal

/-! ### Registrations -/

theorem hasGateway_of_connection? {s : Step} {k : Connection} (h : w.connection? s = some k) :
    w.HasGateway k.route.gateway := by
  have hroute : ∀ (r : RouteRef) (level : Level) (cb : Option Callback),
      (r.resolve? w.gateways).map (⟨·, level, cb⟩) = some k → w.HasGateway k.route.gateway := by
    intro r level cb h
    obtain ⟨g, hg, rfl⟩ := RouteRef.resolve?_map_eq_some h
    exact .inl (List.mem_of_getElem? hg)
  cases s with
  | connect r level cb => exact hroute r level cb h
  | disconnect r level => exact hroute r level none h
  | connectShared i level cb => exact hroute ⟨i, .shared⟩ level cb h
  | connectLinked level cb =>
    obtain rfl := Option.some.inj h
    exact .inr rfl
  | attachLog r level => exact hroute r level (some .logger) h
  | attachLogOnce r level =>
    simp only [connection?, Step.connection?] at h
    split_ifs at h
    exact hroute r level (some .logger) h
  | _ => cases h

/-- A registration is accepted if a route to the library is connected and nothing is objected. -/
theorem registered?_eq_some_iff {s : Step} {id : LibraryId} {r : Registration} :
    w.registered? s id = some r ↔ ∃ k, w.connection? s = some k ∧ k.library = id ∧
      w.objection? k = none ∧ r = ⟨k.level, k.route.slot, true⟩ := by
  simp only [registered?, Option.bind_eq_some_iff, accepts?]
  refine exists_congr fun k => and_congr_right fun _ => ?_
  split_ifs with h
  · simp only [Option.some.injEq, h.1, h.2, true_and]
    exact eq_comm
  · refine iff_of_false (by simp) ?_
    rintro ⟨hid, ho, -⟩
    exact h ⟨ho, hid.symm⟩

/-- A connection that is answered is registered if the answer is no fault. -/
theorem registered?_of_result {s : Step} {k : Connection} {r : Except Fault Unit}
    (hk : w.connection? s = some k) (h : (w.step s).answer = .result r) :
    w.registered? s k.library = r.toOption.map fun _ => ⟨k.level, k.route.slot, true⟩ := by
  simp only [registered?, hk, Option.bind_some, accepts?, eq_verdict_of_answer w hk h, verdict,
    and_true]
  rcases w.objection? k with _ | fault
  · rfl
  · rfl

theorem getElem?_of_own (hw : w.Wired files) (hg : w.HasGateway g) {j : Nat}
    (hj : g.library = .own j) : w.gateways[j]? = some g := by
  rcases hg with hm | rfl
  · obtain ⟨i, hi⟩ := List.getElem?_of_mem hm
    cases hw.gateways i g hi with
    | inner | bare =>
      obtain rfl := LibraryId.own.inj hj
      exact hi
    | linked | opened => cases hj
  · cases hj

theorem own_of_bare (hw : w.Wired files) (hg : w.HasGateway g) (hk : g.kind = .bare) :
    ∃ j, g.library = .own j := by
  rcases hg with hm | rfl
  · obtain ⟨i, hi⟩ := List.getElem?_of_mem hm
    cases hw.gateways i g hi with
    | bare => exact ⟨i, rfl⟩
    | inner | linked | opened => cases hk
  · cases hk

theorem library_ne_own (hw : w.Wired files) (hg : w.HasGateway g) (hi : g.kind ≠ .inner)
    (hb : g.kind ≠ .bare) (j : Nat) : g.library ≠ .own j := by
  intro hj
  cases hw.gateways j g (getElem?_of_own hw hg hj) with
  | inner => exact hi rfl
  | bare => exact hb rfl
  | linked | opened => cases hj

/-- No bare gateway leads to a library that another one leads to. -/
theorem kind_ne_bare_of_library_eq (hw : w.Wired files) {g' : Gateway} (hg : w.HasGateway g)
    (hg' : w.HasGateway g') (hl : g'.library = g.library) (hk : g.kind ≠ .bare) :
    g'.kind ≠ .bare := by
  intro hb
  obtain ⟨j, hj⟩ := own_of_bare hw hg' hb
  have hi := getElem?_of_own hw hg (hl.symm.trans hj)
  rw [getElem?_of_own hw hg' hj] at hi
  exact hk (Option.some.inj hi ▸ hb)

theorem HasGateway.step (hg : w.HasGateway g) (s : Step) : (w.step s).world.HasGateway g := by
  rw [HasGateway, step_gateways]
  exact hg

theorem HasGateway.after (hg : w.HasGateway g) (steps : List Step) :
    (w.after steps).HasGateway g := by
  rw [HasGateway, after_gateways]
  exact hg

/-- Every registration that is accepted asks for expanded text, and its level is known unless it
comes over a bare gateway. -/
theorem registered?_expanded_known (hw : w.Wired files) (hg : w.HasGateway g) {s : Step}
    {r : Registration} (h : w.registered? s g.library = some r) :
    r.preformatted = true ∧ (g.kind ≠ .bare → r.level.isKnown = true) := by
  obtain ⟨k, hk, hl, ho, rfl⟩ := registered?_eq_some_iff.1 h
  refine ⟨rfl, fun hb => ?_⟩
  have hne := kind_ne_bare_of_library_eq hw hg (hasGateway_of_connection? hk) hl hb
  exact GatewayKind.isKnown_of_no_objection hne ho

theorem registrations_expanded_known : ∀ (steps : List Step) {w : World}, w.Wired files →
    w.HasGateway g → ∀ r ∈ registrations g.library w steps,
      r.preformatted = true ∧ (g.kind ≠ .bare → r.level.isKnown = true)
  | [], _, _, _, r, hr => by cases hr
  | s :: steps, w, hw, hg, r, hr => by
    rcases List.mem_append.1 hr with h | h
    · exact registered?_expanded_known hw hg (Option.mem_toList.1 h)
    · exact registrations_expanded_known steps (hw.step s) (hg.step s) r h

/-- A route that is disconnected stays registered. -/
theorem current_of_disconnect {r : RouteRef} (hg : w.gateways[r.gateway]? = some g) (level : Level)
    (h : (w.step (.disconnect r level)).answer = .result (.ok ())) :
    ((w.step (.disconnect r level)).world.library g).current = some ⟨level, r.slot, true⟩ := by
  have hk : w.connection? (.disconnect r level) = some ⟨⟨g, r.slot⟩, level, none⟩ := by
    simp only [connection?, Step.connection?, RouteRef.resolve?, hg, Option.map_some]
  have haccept : w.registered? (.disconnect r level) g.library = some ⟨level, r.slot, true⟩ :=
    registered?_of_result hk h
  show ((w.step _).world.libraries g.library).current = _
  rw [step_current, haccept]
  rfl

theorem askDomains_of_nameless {path : Bytes} (hk : g.kind = .opened path)
    (hn : (w.library g).image.namesDomains = false) : (w.askDomains g).answer = .unresolved := by
  simp only [askDomains, hk, GatewayKind.askDomains, hn, Bool.false_eq_true, if_false]

theorem step_askDomains_answer {i : Nat} (hg : w.gateways[i]? = some g) :
    (w.step (.askDomains i)).answer = .domains (w.askDomains g).answer := by
  simp only [step, perform, withGateway, hg]
  rfl

end Steps

theorem accepted_opened_after (files : FileTree) (specs : List GatewaySpec) (steps : List Step)
    (id : LibraryId) :
    (((opened files specs).after steps).libraries id).accepted =
      (registrations id (opened files specs) steps).length := by
  obtain ⟨image, handles, refusal, h⟩ := (fresh_opened files specs).libraries id
  rw [accepted_after, h]
  exact Nat.zero_add _

/-- What a library has been told after any run. The registrations are those that it accepted in the
run: it has been told of none, or the last one is in force, names a slot and asks for expanded text.
A connection to the library is registered if it is not answered by a fault, also if it is to
disconnect the route. None has an unknown level unless it came over a bare gateway. A linked or
opened library has been asked for its domains all at once each time, in their order, and has created
none; and one that cannot be asked has not been asked and knows no domain. -/
theorem library_is_told (files : FileTree) (specs : List GatewaySpec) (steps : List Step)
    {g : Gateway} (hg : (opened files specs).HasGateway g) :
    let start := opened files specs
    let w := start.after steps
    let lib := w.library g
    let accepted := registrations g.library start steps
    (accepted = [] ∧ lib.accepted = 0 ∧ lib.current = none ∨
        ∃ last, accepted.getLast? = some last ∧ lib.accepted = accepted.length ∧
          lib.current = some last ∧ last.preformatted = true) ∧
      (∀ s k, w.connection? s = some k → k.library = g.library →
        ∀ r, (w.step s).answer = .result r →
          w.registered? s g.library = r.toOption.map fun _ => ⟨k.level, k.route.slot, true⟩) ∧
      (∀ r level, start.gateways[r.gateway]? = some g →
        (w.step (.disconnect r level)).answer = .result (.ok ()) →
          ((w.step (.disconnect r level)).world.library g).current = some ⟨level, r.slot, true⟩) ∧
      (g.kind ≠ .bare → ∀ r ∈ accepted, 0 ≤ r.level.raw.toInt ∧ r.level.raw.toInt ≤ 5) ∧
      (g.kind ≠ .inner → g.kind ≠ .bare →
        lib.creates = 0 ∧ 5 ∣ lib.lookups ∧ (lib.lookups ≠ 0 → lib.order = 12345)) ∧
      ∀ path place image, g = ⟨.opened path, .file place⟩ →
        files.get? place = some (.library image) → image.namesDomains = false →
          lib.lookups = 0 ∧ (w.askDomains g).answer = .unresolved ∧
            ∀ i, start.gateways[i]? = some g →
              (w.step (.askDomains i)).answer = .domains .unresolved := by
  intro start w lib accepted
  have hw : start.Wired files := wired_opened files specs
  have hasked := fun id => (fresh_opened files specs).askedInTurn id
  have hknown := registrations_expanded_known steps hw hg
  have hcurrent : lib.current = accepted.getLast? :=
    current_opened_after files specs steps g.library
  have hcount : lib.accepted = accepted.length := accepted_opened_after files specs steps g.library
  refine ⟨?_, fun s k hk hid r ha => hid ▸ registered?_of_result hk ha,
    fun r level hr ha => current_of_disconnect (by rw [after_gateways, hr]) level ha,
    fun hb r hr => Level.isKnown_iff.1 ((hknown r hr).2 hb), fun hi hb => ?_,
    fun path place image hgp hf hn => ?_⟩
  · rcases hlast : accepted.getLast? with _ | last
    · obtain hnil := List.getLast?_eq_none_iff.1 hlast
      exact .inl ⟨hnil, by rw [hcount, hnil]; rfl, by rw [hcurrent, hlast]⟩
    · exact .inr ⟨last, rfl, hcount, hcurrent.trans hlast,
        (hknown last (List.mem_of_getLast? hlast)).1⟩
  · have h := askedInTurn_after (library_ne_own hw hg hi hb) steps hw (hasked _)
    exact ⟨h.creates, h.lookups, h.order⟩
  · subst hgp
    have hid : ∀ i, LibraryId.file place ≠ .own i := fun _ => nofun
    have himage : lib.image = image := (hw.after steps).image_eq (hg.after steps) hf
    have h := askedInTurn_after hid steps hw (hasked _)
    have hu : (w.askDomains ⟨.opened path, .file place⟩).answer = .unresolved :=
      askDomains_of_nameless rfl (himage ▸ hn)
    refine ⟨h.nameless (himage ▸ hn), hu, fun i hi => ?_⟩
    rw [step_askDomains_answer (by rw [after_gateways, hi]), hu]

/-- A library without names, opened by two paths: a registration over one, a disconnection over the
other, an unknown level that is refused, and a request for its domains. -/
theorem nameless_library_is_told :
    let path := Utf8.encode "./nodomain.so"
    let g : Gateway := ⟨.opened path, .file [Utf8.encode "work", Utf8.encode "nodomain.so"]⟩
    let start := opened .stock
      [.opened path .unresolved, .opened (Utf8.encode ".//nodomain.so") .unresolved]
    let steps : List Step :=
      [.attachLog ⟨0, .left⟩ .info, .disconnect ⟨1, .right⟩ .error, .connect ⟨0, .left⟩ ⟨6⟩ none,
        .askDomains 1]
    let lib := (start.after steps).library g
    start.HasGateway g ∧
      FileTree.stock.get? [Utf8.encode "work", Utf8.encode "nodomain.so"] =
        some (.library .nameless) ∧
      lib.accepted = 2 ∧ lib.current = some ⟨.error, .right, true⟩ ∧ lib.creates = 0 ∧
      lib.lookups = 0 ∧
      ((start.after steps).step (.askDomains 0)).answer = .domains .unresolved := by
  intro path g start steps lib
  have hg : start.gateways[0]? = some g := by rfl
  have hhas : start.HasGateway g := .inl (List.mem_of_getElem? hg)
  have hf : FileTree.stock.get? [Utf8.encode "work", Utf8.encode "nodomain.so"] =
      some (.library .nameless) := by rfl
  have h := library_is_told .stock _ steps hhas
  obtain ⟨htold, -, -, -, hasked, hnone⟩ := h
  have hall : registrations g.library start steps =
      [⟨.info, .left, true⟩, ⟨.error, .right, true⟩] := by rfl
  rcases htold with ⟨hnil, -, -⟩ | ⟨last, hlast, hcount, hcurrent, -⟩
  · rw [hall] at hnil
    cases hnil
  · rw [hall] at hlast hcount
    obtain rfl := Option.some.inj hlast
    obtain ⟨hlookups, -, hanswer⟩ := hnone path _ .nameless rfl hf rfl
    exact ⟨hhas, hf, hcount, hcurrent, (hasked nofun nofun).1, hlookups, hanswer 0 hg⟩

end World

end Switchboard
